import LadderAtlas.Proofs.Chart.Points

/-! # The last point of each season

Walking from the newest point to the oldest, the first point met of a run of one season is the last
one that was taken in it. A run ends where the season changes, and a season that comes back begins
another run. So what is kept has one point for each run, and where no season comes back, one for
each season.
-/

namespace LadderAtlas.TimeSelection

variable {β : Type} {season : β → Int32} {points : List β}

/-- Points cut into runs: those of a run are of one season, and the next run is of another. -/
structure CutIntoRuns (season : β → Int32) (points : List β) (runs : List (List β)) : Prop where
  whole : runs.flatten = points
  filled : ∀ run ∈ runs, run ≠ []
  alike : ∀ run ∈ runs, ∀ p ∈ run, ∀ q ∈ run, season p = season q
  apart : runs.IsChain fun run next => ∀ p ∈ run, ∀ q ∈ next, season p ≠ season q

/-- Between two points of a season there are no points of other seasons. -/
def Contiguous (season : β → Int32) (points : List β) : Prop :=
  ∀ p q r, [p, q, r].Sublist points → season p = season r → season q = season p

/-! ## Runs -/

theorem exists_runs (season : β → Int32) (points : List β) :
    ∃ runs, CutIntoRuns season points runs := by
  induction points with
  | nil => exact ⟨[], rfl, by simp, by simp, .nil⟩
  | cons p rest ih =>
      obtain ⟨runs, rfl, filled, alike, apart⟩ := ih
      cases runs with
      | nil => exact ⟨[[p]], by simp, by simp, by simp, .singleton _⟩
      | cons run later =>
          obtain ⟨q, tail, rfl⟩ := List.exists_cons_of_ne_nil (filled run List.mem_cons_self)
          have ofRun : ∀ r ∈ q :: tail, season r = season q := fun r member =>
            alike _ List.mem_cons_self r member q List.mem_cons_self
          by_cases same : season p = season q
          · -- The point goes on with the run, whose season it shares.
            refine ⟨(p :: q :: tail) :: later, by simp, ?_, ?_, ?_⟩
            · simpa using filled
            · have widened : ∀ r ∈ p :: q :: tail, season r = season q :=
                List.forall_mem_cons.mpr ⟨same, ofRun⟩
              refine List.forall_mem_cons.mpr ⟨fun r hr t ht => ?_, fun other later' => ?_⟩
              · rw [widened r hr, widened t ht]
              · exact alike other (List.mem_cons_of_mem _ later')
            · cases later with
              | nil => exact .singleton _
              | cons next after =>
                  obtain ⟨change, further⟩ := List.isChain_cons_cons.mp apart
                  refine List.isChain_cons_cons.mpr ⟨?_, further⟩
                  refine List.forall_mem_cons.mpr ⟨fun t ht => ?_, change⟩
                  rw [same]
                  exact change q List.mem_cons_self t ht
          · refine ⟨[p] :: (q :: tail) :: later, by simp, ?_, ?_, ?_⟩
            · simpa using filled
            · refine List.forall_mem_cons.mpr ⟨by simp, alike⟩
            · refine List.isChain_cons_cons.mpr ⟨fun r hr t ht => ?_, apart⟩
              rw [List.mem_singleton.mp hr, ofRun t ht]
              exact same

/-- Once a season was met, the rest of its run is passed over. -/
theorem firstOfRuns_append (id : Int32) {run : List β} (alike : ∀ p ∈ run, season p = id)
    (rest : List β) :
    firstOfRuns season (some id) (run ++ rest) = firstOfRuns season (some id) rest := by
  induction run with
  | nil => rfl
  | cons p run ih =>
      have here : some id = some (season p) := by simp [alike p]
      rw [List.cons_append, firstOfRuns, if_pos here]
      exact ih fun q member => alike q (List.mem_cons_of_mem p member)

/-- Of each run the first point is kept, unless the first run goes on with the season before. -/
theorem firstOfRuns_eq_heads {before : Option Int32} {runs : List (List β)}
    (cut : CutIntoRuns season points runs)
    (fresh : ∀ run ∈ runs.head?, ∀ p ∈ run, before ≠ some (season p)) :
    firstOfRuns season before points = runs.filterMap List.head? := by
  obtain ⟨rfl, filled, alike, apart⟩ := cut
  induction runs generalizing before with
  | nil => rfl
  | cons run later ih =>
      obtain ⟨p, tail, rfl⟩ := List.exists_cons_of_ne_nil (filled run List.mem_cons_self)
      have starts : before ≠ some (season p) := fresh _ rfl p List.mem_cons_self
      have ofRun : ∀ q ∈ tail, season q = season p := fun q member =>
        alike _ List.mem_cons_self q (List.mem_cons_of_mem p member) p List.mem_cons_self
      have changes : ∀ next ∈ later.head?, ∀ q ∈ next, some (season p) ≠ some (season q) := by
        intro next first q member same
        exact (List.isChain_cons.mp apart).1 next first p List.mem_cons_self q member
          (Option.some.inj same)
      calc
        firstOfRuns season before ((p :: tail) :: later).flatten
          = p :: firstOfRuns season (some (season p)) (tail ++ later.flatten) := by
            rw [List.flatten_cons, List.cons_append, firstOfRuns, if_neg starts]
        _ = p :: firstOfRuns season (some (season p)) later.flatten := by
            rw [firstOfRuns_append (season p) ofRun]
        _ = p :: later.filterMap List.head? := by
            rw [ih changes (fun run member => filled run (List.mem_cons_of_mem _ member))
              (fun run member =>
                alike run (List.mem_cons_of_mem _ member)) (List.isChain_cons.mp apart).2]
        _ = ((p :: tail) :: later).filterMap List.head? := by simp

/-! ## Neighbours -/

theorem head?_firstOfRuns (before : Option Int32) (points : List β) :
    ∀ p ∈ (firstOfRuns season before points).head?, before ≠ some (season p) := by
  induction points with
  | nil => simp [firstOfRuns]
  | cons p rest ih =>
      rw [firstOfRuns]
      split
      · exact ih
      · next changed => simpa using changed

theorem isChain_firstOfRuns (season : β → Int32) (before : Option Int32) (points : List β) :
    (firstOfRuns season before points).IsChain fun p q => season p ≠ season q := by
  induction points generalizing before with
  | nil => exact .nil
  | cons p rest ih =>
      rw [firstOfRuns]
      split
      · exact ih before
      · refine List.isChain_cons.mpr ⟨fun q first same => ?_, ih _⟩
        exact head?_firstOfRuns (some (season p)) rest q first (congrArg some same)

/-- Where neighbours are of different seasons, every point is a run of its own. -/
theorem firstOfRuns_of_isChain (before : Option Int32)
    (changes : points.IsChain fun p q => season p ≠ season q)
    (fresh : ∀ p ∈ points.head?, before ≠ some (season p)) :
    firstOfRuns season before points = points := by
  induction points generalizing before with
  | nil => rfl
  | cons p rest ih =>
      obtain ⟨first, changes⟩ := List.isChain_cons.mp changes
      rw [firstOfRuns, if_neg (fresh p rfl), ih _ changes]
      intro q next same
      exact first q next (Option.some.inj same)

/-! ## Seasons that do not come back -/

theorem Contiguous.sublist {fewer : List β} (h : Contiguous season points)
    (part : fewer.Sublist points) :
    Contiguous season fewer :=
  fun p q r inside => h p q r (inside.trans part)

/-- Seasons in order do not come back. -/
theorem contiguous_of_inOrder (inOrder : points.Pairwise fun p q => season q ≤ season p) :
    Contiguous season points := by
  intro p q r inside same
  have order : season q ≤ season p ∧ season r ≤ season q := by
    have three := inOrder.sublist inside
    simp only [List.pairwise_cons, List.mem_cons] at three
    exact ⟨three.1 q (.inl rfl), three.2.1 r (.inl rfl)⟩
  exact Int32.le_antisymm order.1 (same ▸ order.2)

/-- After a point of a season, what is kept of every other season is the first point there is, and
    of the same season nothing more. -/
theorem filter_firstOfRuns {b : β} (contiguous : Contiguous season (b :: points)) (id : Int32) :
    (firstOfRuns season (some (season b)) points).filter (fun p => season p = id) =
      if id = season b then [] else (points.find? fun p => season p = id).toList := by
  induction points generalizing b with
  | nil => simp [firstOfRuns]
  | cons p rest ih =>
      by_cases same : season b = season p
      · rw [firstOfRuns, if_pos (congrArg some same), ih (contiguous.sublist (by simp))]
        by_cases here : id = season b
        · simp [here]
        · have other : season p ≠ id := fun h => here (h ▸ same.symm)
          simp [here, other]
      · have further := ih (contiguous.sublist (List.sublist_cons_self b _)) (b := p)
        rw [firstOfRuns, if_neg (fun h => same (Option.some.inj h)), List.filter_cons, further]
        -- The season of `b` has ended with `p`, so it is met no more.
        have ended : ∀ r ∈ rest, season r ≠ season b := by
          intro r member back
          have order : [b, p, r].Sublist (b :: p :: rest) := by simpa using member
          exact same (contiguous b p r order back.symm).symm
        by_cases here : id = season b
        · subst here
          have none : rest.find? (fun r => season r = season b) = none := by simpa using ended
          simp [none, Ne.symm same, same]
        · by_cases next : season p = id
          · simp [next, here]
          · have other : id ≠ season p := Ne.symm next
            simp [next, here, other]

theorem filter_firstOfRuns_none (contiguous : Contiguous season points) (id : Int32) :
    (firstOfRuns season none points).filter (fun p => season p = id) =
      (points.find? fun p => season p = id).toList := by
  cases points with
  | nil => rfl
  | cons p rest =>
      rw [firstOfRuns, if_neg (by simp), List.filter_cons, filter_firstOfRuns contiguous]
      by_cases here : season p = id
      · simp [here]
      · have other : id ≠ season p := Ne.symm here
        simp [here, other]

/-! ## The selections -/

/-- What is selected of points that are given newest first. All of them are selected in the order of
    time. Of the last points of seasons there is one for each run, the newest of it: the newest of
    all is among them, no two neighbours are of one season, and selecting from them again selects
    them all. If no season comes back, there is one point for each season, the newest of it. -/
theorem newest_of_runs (season : β → Int32) (newestFirst : List β) :
    let all := TimeSelection.all.apply season newestFirst
    let last := TimeSelection.seasonLast.apply season newestFirst
    all = newestFirst.reverse ∧
    (∃ runs, CutIntoRuns season newestFirst runs) ∧
    (∀ runs, CutIntoRuns season newestFirst runs → last = (runs.filterMap List.head?).reverse) ∧
    last.Sublist all ∧ last.getLast? = all.getLast? ∧
    (last.IsChain fun p q => season p ≠ season q) ∧
    TimeSelection.seasonLast.apply season last.reverse = last ∧
    (Contiguous season newestFirst → ∀ id,
      last.filter (fun p => season p = id) =
        (newestFirst.find? fun p => season p = id).toList) := by
  intro all last
  have changes := isChain_firstOfRuns season none newestFirst
  refine ⟨rfl, exists_runs season newestFirst, ?_, apply_sublist .seasonLast season newestFirst,
    ?_, ?_, ?_, ?_⟩
  · intro runs cut
    exact congrArg List.reverse (firstOfRuns_eq_heads cut (by simp))
  · exact (getLast?_apply .seasonLast season newestFirst).trans
      (getLast?_apply .all season newestFirst).symm
  · exact List.isChain_reverse.mpr (changes.imp fun _ _ => Ne.symm)
  · have again := firstOfRuns_of_isChain none changes (by simp)
    simp only [last, apply, List.reverse_reverse, again]
  · intro contiguous id
    have kept := filter_firstOfRuns_none contiguous id
    simp only [last, apply, List.filter_reverse, kept]
    cases newestFirst.find? fun p => season p = id <;> rfl

/-- Five points of three seasons, and the oldest one's season is met again at the end. -/
theorem newest_of_runs_back :
    let season (p : Int64 × Int32) := p.2
    let points : List (Int64 × Int32) := [(5, 29), (4, 28), (3, 28), (2, 27), (1, 27)]
    let back : List (Int64 × Int32) := (7, 27) :: points
    CutIntoRuns season back [[(7, 27)], [(5, 29)], [(4, 28), (3, 28)], [(2, 27), (1, 27)]] ∧
      TimeSelection.seasonLast.apply season back = [(2, 27), (4, 28), (5, 29), (7, 27)] ∧
      Contiguous season points ∧
      (TimeSelection.seasonLast.apply season points).filter (fun p => season p = 28) =
        [(4, 28)] := by
  intro season points back
  have cut : CutIntoRuns season back [[(7, 27)], [(5, 29)], [(4, 28), (3, 28)],
      [(2, 27), (1, 27)]] :=
    ⟨rfl, by simp, by simp [season, -Prod.forall], by simp [season, -Prod.forall]⟩
  have contiguous : Contiguous season points := contiguous_of_inOrder (by decide)
  obtain ⟨-, -, heads, -⟩ := newest_of_runs season back
  obtain ⟨-, -, -, -, -, -, -, kept⟩ := newest_of_runs season points
  exact ⟨cut, heads _ cut, contiguous, kept contiguous 28⟩

end LadderAtlas.TimeSelection
