import LadderAtlas.Proofs.Results
import LadderAtlas.Url.Reading
import Mathlib

/-! # Addresses of relative paths

A relative path of plain segments is appended to the folder of a base: what is left of the base's
path without its last segment, or all of it where the last segment is the letter of a drive. So the
text of the address is the text of the folder and the relative path behind it.
-/

namespace LadderAtlas

namespace Text

/-! ## Separated texts -/

theorem exists_separated_eq_cons (separator : Char) (cs : List Char) :
    ∃ part parts, separated separator cs = part :: parts := by
  cases cs with
  | nil => exact ⟨[], [], rfl⟩
  | cons c cs =>
      unfold separated
      rw [List.foldr_cons]
      split <;> split <;> exact ⟨_, _, rfl⟩

theorem separated_separator (separator : Char) (cs : List Char) :
    separated separator (separator :: cs) = [] :: separated separator cs := by
  obtain ⟨part, parts, same⟩ := exists_separated_eq_cons separator cs
  unfold separated at same ⊢
  rw [List.foldr_cons, same]
  exact if_pos (beq_self_eq_true separator)

theorem separated_cons {separator c : Char} (other : c ≠ separator) {cs part : List Char}
    {parts : List (List Char)} (same : separated separator cs = part :: parts) :
    separated separator (c :: cs) = (c :: part) :: parts := by
  unfold separated at same ⊢
  rw [List.foldr_cons, same]
  exact if_neg (by rwa [beq_iff_eq])

/-- A separator ends the part before it. -/
theorem separated_append {separator : Char} {part : List Char} (free : separator ∉ part)
    (cs : List Char) :
    separated separator (part ++ separator :: cs) = part :: separated separator cs := by
  induction part with
  | nil => exact separated_separator separator cs
  | cons c part ih =>
      have other : c ≠ separator := fun same => free (same ▸ List.mem_cons_self)
      exact separated_cons other (ih fun later => free (List.mem_cons_of_mem c later))

theorem separated_of_free {separator : Char} {part : List Char} (free : separator ∉ part) :
    separated separator part = [part] := by
  induction part with
  | nil => rfl
  | cons c part ih =>
      have other : c ≠ separator := fun same => free (same ▸ List.mem_cons_self)
      exact separated_cons other (ih fun later => free (List.mem_cons_of_mem c later))

/-- Parts that are joined by separators come apart again. -/
theorem separated_joined {separator : Char} {part : List Char} {parts : List (List Char)}
    (free : separator ∉ part) (others : ∀ other ∈ parts, separator ∉ other) :
    separated separator (part ++ parts.flatMap (separator :: ·)) = part :: parts := by
  induction parts generalizing part with
  | nil =>
      rw [List.flatMap_nil, List.append_nil]
      exact separated_of_free free
  | cons next parts ih =>
      rw [List.flatMap_cons, List.cons_append, separated_append free,
        ih (others next List.mem_cons_self) fun other member =>
          others other (List.mem_cons_of_mem next member)]

end Text

namespace Url

/-! ## Plain segments -/

/-- A character that stands in a path as it is and has no meaning there. -/
def IsPlain (c : Char) : Prop := c.isLower = true ∨ c.isDigit = true ∨ c = '-'

theorem IsPlain.range {c : Char} (plain : IsPlain c) :
    (97 ≤ c.toNat ∧ c.toNat ≤ 122) ∨ (48 ≤ c.toNat ∧ c.toNat ≤ 57) ∨ c.toNat = 45 := by
  rcases plain with lower | digit | rfl
  · simp only [Char.isLower, Bool.and_eq_true, decide_eq_true_eq, UInt32.le_iff_toNat_le,
      ge_iff_le] at lower
    exact .inl lower
  · simp only [Char.isDigit, Bool.and_eq_true, decide_eq_true_eq, UInt32.le_iff_toNat_le,
      ge_iff_le] at digit
    exact .inr (.inl digit)
  · exact .inr (.inr rfl)

theorem IsPlain.ne {c d : Char} (plain : IsPlain c) (other : ¬ IsPlain d) : c ≠ d := by
  rintro rfl
  exact other plain

instance (c : Char) : Decidable (IsPlain c) := inferInstanceAs (Decidable (_ ∨ _ ∨ _))

theorem IsPlain.counts {c : Char} (plain : IsPlain c) : counts c = true := by
  have tab := plain.ne (d := '\t') (by decide)
  have line := plain.ne (d := '\n') (by decide)
  have return' := plain.ne (d := '\r') (by decide)
  simp [Url.counts, tab, line, return']

theorem IsPlain.toLower {c : Char} (plain : IsPlain c) : c.toLower = c := by
  have range := plain.range
  have notUpper : ¬ (c.val ≥ 'A'.val ∧ c.val ≤ 'Z'.val) := by
    rw [ge_iff_le, UInt32.le_iff_toNat_le, UInt32.le_iff_toNat_le]
    change ¬ (65 ≤ c.toNat ∧ c.toNat ≤ 90)
    omega
  unfold Char.toLower
  rw [dif_neg notUpper]

theorem IsPlain.inPath {c : Char} (plain : IsPlain c) : Percent.inPath c = false := by
  have range := plain.range
  have visible : Percent.isControl c = false := by
    simp only [Percent.isControl, Bool.or_eq_false_iff, decide_eq_false_iff_not]
    omega
  have other (d : Char) (meaning : ¬ IsPlain d) : (c == d) = false :=
    beq_eq_false_iff_ne.mpr (plain.ne meaning)
  simp only [Percent.inPath, Percent.inFragment, visible, other ' ' (by decide),
    other '\x22' (by decide), other '<' (by decide), other '>' (by decide),
    other '\x60' (by decide), other '#' (by decide),
    other '?' (by decide), other '\x7b' (by decide), other '\x7d' (by decide), Bool.or_self]

def Plain (segment : List Char) : Prop := ∀ c ∈ segment, IsPlain c

instance (segment : List Char) : Decidable (Plain segment) := List.decidableBAll IsPlain segment

namespace Plain

variable {segment : List Char}

theorem not_mem (plain : Plain segment) {c : Char} (other : ¬ IsPlain c) : c ∉ segment :=
  fun member =>
  other (plain c member)

theorem filter_counts (plain : Plain segment) : segment.filter counts = segment :=
  List.filter_eq_self.mpr fun c member => (plain c member).counts

theorem map_toLower (plain : Plain segment) : segment.map Char.toLower = segment := by
  conv_rhs => rw [← List.map_id segment]
  exact List.map_congr_left fun c member => (plain c member).toLower

theorem encode (plain : Plain segment) : Percent.encode Percent.inPath segment = segment := by
  induction segment with
  | nil => rfl
  | cons c segment ih =>
      rw [Percent.encode, List.flatMap_cons, (plain c List.mem_cons_self).inPath]
      exact congrArg (c :: ·) (ih fun d member => plain d (List.mem_cons_of_mem c member))

theorem isDot_eq_false (plain : Plain segment) : isDot segment = false := by
  unfold isDot
  rw [plain.map_toLower]
  split
  · exact absurd (List.mem_cons_self) (plain.not_mem (c := '.') (by decide))
  · exact absurd (List.mem_cons_self) (plain.not_mem (c := '%') (by decide))
  · rfl

theorem isDoubleDot_eq_false (plain : Plain segment) : isDoubleDot segment = false := by
  unfold isDoubleDot
  rw [plain.map_toLower]
  split
  · exact absurd (List.mem_cons_self) (plain.not_mem (c := '.') (by decide))
  · exact absurd (List.mem_cons_self) (plain.not_mem (c := '.') (by decide))
  · exact absurd (List.mem_cons_self) (plain.not_mem (c := '%') (by decide))
  · exact absurd (List.mem_cons_self) (plain.not_mem (c := '%') (by decide))
  · rfl

theorem isDrive_eq_false (plain : Plain segment) : isDrive segment = false := by
  unfold isDrive
  split
  · next letter mark =>
      have colon : mark ≠ ':' := (plain mark (by simp)).ne (by decide)
      have bar : mark ≠ '|' := (plain mark (by simp)).ne (by decide)
      simp [colon, bar]
  · rfl

theorem driveAside?_eq_none (plain : Plain segment) : driveAside? segment = none := by
  unfold driveAside?
  dsimp only
  split
  · next letter rest skipped =>
      split
      · next c rest' skipped' =>
          have later : ':' ∈ rest :=
            (List.dropWhile_sublist _).subset (skipped' ▸ List.mem_cons_self)
          have colon : ':' ∈ segment :=
            (List.dropWhile_sublist _).subset (skipped ▸ List.mem_cons_of_mem letter later)
          exact absurd colon (plain.not_mem (by decide))
      · rfl
  · rfl

end Plain

/-! ## Paths of plain segments -/

theorem push_of_plain (file : Bool) (path : PathSoFar) {segment : List Char}
    (plain : Plain segment) :
    (path.push file segment).segments = path.segments ++ [segment] := by
  unfold PathSoFar.push
  rw [plain.filter_counts]
  dsimp only
  rw [plain.encode, plain.driveAside?_eq_none, plain.isDrive_eq_false]
  split
  · next start =>
      rw [Bool.and_eq_true, List.isEmpty_iff] at start
      rw [start.2]
      rfl
  · rfl

theorem append_of_plain (file : Bool) (path : PathSoFar) {relative : List (List Char)}
    (plain : ∀ segment ∈ relative, Plain segment) :
    (path.append file relative).segments = path.segments ++ relative := by
  induction relative generalizing path with
  | nil => exact (List.append_nil _).symm
  | cons segment relative ih =>
      have first := plain segment List.mem_cons_self
      unfold PathSoFar.append
      rw [first.filter_counts]
      dsimp only
      rw [if_neg (by simp [first.isDoubleDot_eq_false]), if_neg (by simp [first.isDot_eq_false])]
      rw [ih _ fun other member => plain other (List.mem_cons_of_mem segment member),
        push_of_plain file path first, List.append_assoc]
      rfl

/-- The segments of a relative path. -/
theorem segments_joined (special : Bool) {first : List Char} {rest : List (List Char)}
    (plain : Plain first) (others : ∀ segment ∈ rest, Plain segment) :
    segments special (first ++ rest.flatMap ('/' :: ·)) = first :: rest := by
  have backslash : ¬ IsPlain '\\' := by decide
  have same : ∀ c ∈ first ++ rest.flatMap ('/' :: ·),
      (if isSlash special c then '/' else c) = c := by
    intro c member
    have known : IsPlain c ∨ c = '/' := by
      simp only [List.mem_append, List.mem_flatMap, List.mem_cons] at member
      obtain start | ⟨segment, among, rfl | inside⟩ := member
      · exact .inl (plain c start)
      · exact .inr rfl
      · exact .inl (others segment among c inside)
    rcases known with known | rfl
    · have noSlash : isSlash special c = false := by
        simp [isSlash, known.ne (d := '/') (by decide), known.ne backslash]
      rw [noSlash]
      rfl
    · exact ite_self _
  have unchanged :
      (first ++ rest.flatMap ('/' :: ·)).map (fun c => if isSlash special c then '/' else c) =
      first ++ rest.flatMap ('/' :: ·) := List.map_congr_left same |>.trans (List.map_id _)
  unfold segments
  rw [unchanged]
  have noSlash : ¬ IsPlain '/' := by decide
  exact Text.separated_joined (plain.not_mem noSlash) fun segment member =>
    (others segment member).not_mem noSlash

/-! ## Folders -/

/-- The path that the segments of a relative path are put behind. It ends in a slash, or in the
    letter of a drive that the first relative segment continues. -/
def folder (file : Bool) (path : List (List Char)) : List (List Char) :=
  match path.getLast? with
  | none => [[]]
  | some last =>
    if file && isPlainDrive last then (if path.length = 1 then path ++ [[]] else path)
    else path.dropLast ++ [[]]

/-- A path that ends in a slash is its own folder. -/
theorem folder_append_nil (file : Bool) (path : List (List Char)) :
    folder file (path ++ [[]]) = path ++ [[]] := by
  unfold folder
  rw [List.getLast?_concat]
  simp [isPlainDrive, isDrive]

theorem resolved_of_plain (file : Bool) (path : List (List Char)) {first : List Char}
    {rest : List (List Char)} (plain : Plain first) (others : ∀ segment ∈ rest, Plain segment) :
    ∃ front last, folder file path = front ++ [last] ∧
      resolved file path (first :: rest) = front ++ (last ++ first) :: rest := by
  have all : ∀ segment ∈ first :: rest, Plain segment := List.forall_mem_cons.mpr ⟨plain, others⟩
  unfold folder resolved
  cases ending : path.getLast? with
  | none =>
      rw [List.getLast?_eq_none_iff] at ending
      subst ending
      exact ⟨[], [], rfl, append_of_plain file _ all⟩
  | some last =>
      dsimp only
      split
      · split
        · exact ⟨path, [], rfl, append_of_plain file _ all⟩
        · obtain ⟨front, rfl⟩ := List.getLast?_eq_some_iff.mp ending
          refine ⟨front, last, rfl, ?_⟩
          rw [append_of_plain file _ others, List.dropLast_concat, plain.encode, List.append_assoc]
          rfl
      · exact ⟨path.dropLast, [], rfl, append_of_plain file _ all⟩

/-! ## Paths of files -/

theorem trimmed_cases (path : List (List Char)) :
    trimmed true path = [[]] ∨ ∃ c segment rest, trimmed true path = (c :: segment) :: rest := by
  unfold trimmed
  rw [if_pos rfl]
  cases left : path.dropWhile List.isEmpty with
  | nil => exact .inl rfl
  | cons segment rest =>
      cases segment with
      | nil =>
          have filled :=
            List.head_dropWhile_not List.isEmpty (l := path)
              (by rw [left]; exact List.cons_ne_nil _ _)
          simp [left] at filled
      | cons c segment => exact .inr ⟨c, segment, rest, rfl⟩

/-- Nothing is left to be trimmed. -/
theorem trimmed_trimmed (file : Bool) (path : List (List Char)) :
    trimmed file (trimmed file path) = trimmed file path := by
  cases file with
  | false => rfl
  | true =>
      obtain none | ⟨c, segment, rest, same⟩ := trimmed_cases path
      · rw [none]
        rfl
      · rw [same]
        rfl

theorem exists_of_ofFile? {cs : List Char} {u : Url} (read : ofFile? cs = .ok u) :
    ∃ host path, u = ofFilePath host path := by
  unfold ofFile? at read
  split at read
  · exact ⟨_, _, (Except.ok.inj read).symm⟩
  · split at read
    · exact ⟨_, _, (Except.ok.inj read).symm⟩
    · dsimp only at read
      split at read
      · exact ⟨_, _, (Except.ok.inj read).symm⟩
      · obtain ⟨host, -, read⟩ := exists_of_bind_eq_ok read
        cases host with
        | none => exact ⟨_, _, (Except.ok.inj read).symm⟩
        | some host => exact ⟨_, _, (Except.ok.inj read).symm⟩

theorem scheme_of_ofAuthority? {scheme cs : List Char} {u : Url}
    (read : ofAuthority? scheme cs = .ok u) :
    u.scheme = scheme := by
  unfold ofAuthority? at read
  obtain ⟨_, -, read⟩ := exists_of_bind_eq_ok read
  cases read
  rfl

/-- The path of a file is trimmed as its address is read. -/
theorem trimmed_of_parse? {text : String} {u : Url} (read : parse? text = .ok u)
    {path : List (List Char)} (rooted : u.path = .rooted path) :
    trimmed (u.scheme == fileScheme) path = path := by
  have general (other : u.scheme ≠ fileScheme) : trimmed (u.scheme == fileScheme) path = path := by
    rw [beq_eq_false_iff_ne.mpr other]
    rfl
  unfold parse? at read
  dsimp only at read
  split at read
  · cases read
  · next scheme rest _ =>
      split at read
      · obtain ⟨host, cs, rfl⟩ := exists_of_ofFile? read
        cases rooted
        exact trimmed_trimmed true _
      · next other =>
          rw [beq_iff_eq] at other
          split at read
          · exact general (scheme_of_ofAuthority? read ▸ other)
          · split at read
            · exact general (scheme_of_ofAuthority? read ▸ other)
            · cases read
              exact general other
            · cases read
              exact general other

theorem head?_of_folder {file : Bool} {path tail : List (List Char)} {first next : List Char}
    (deep : folder file path = first :: next :: tail) : path.head? = some first := by
  cases path with
  | nil => cases deep
  | cons head rest =>
      cases rest with
      | nil =>
          unfold folder at deep
          simp only [List.getLast?_singleton, List.length_singleton, if_true] at deep
          split at deep
          · cases deep
            rfl
          · cases deep
      | cons second rest =>
          unfold folder at deep
          rw [List.getLast?_cons] at deep
          dsimp only at deep
          split at deep
          · rw [if_neg (by simp)] at deep
            cases deep
            rfl
          · rw [List.dropLast_cons_cons, List.cons_append] at deep
            exact congrArg some (List.cons.inj deep).1

/-- A path of a file does not start with an empty segment because something is appended to its
    folder. -/
theorem trimmed_of_folder {file : Bool} {path front rest : List (List Char)}
    {last first : List Char} (kept : trimmed file path = path)
    (shape : folder file path = front ++ [last]) (some : first ≠ []) :
    trimmed file (front ++ (last ++ first) :: rest) = front ++ (last ++ first) :: rest := by
  cases file with
  | false => rfl
  | true =>
      cases front with
      | nil =>
          obtain ⟨c, segment, same⟩ :=
            List.exists_cons_of_ne_nil (List.append_ne_nil_of_right_ne_nil last some)
          rw [List.nil_append, same]
          rfl
      | cons head front =>
          obtain ⟨next, tail, more⟩ : ∃ next tail, front ++ [last] = next :: tail :=
            List.exists_cons_of_ne_nil
              (List.append_ne_nil_of_right_ne_nil front (List.cons_ne_nil _ _))
          rw [List.cons_append, more] at shape
          have start := head?_of_folder shape
          rw [← kept] at start
          obtain none | ⟨c, segment, others, same⟩ := trimmed_cases path
          · rw [← kept, none] at shape
            cases shape
          · rw [same] at start
            cases start
            rfl

/-! ## Texts -/

/-- The address that relative paths are put behind. -/
def folderUrl (base : Url) (path : List (List Char)) : Url :=
  { base with
    path := .rooted (folder (base.scheme == fileScheme) path)
    query := none
    fragment := none }

/-- What stands between the scheme and the path. -/
def lead (authority : Option Authority) (path : List (List Char)) : List Char :=
  match authority, path with
  | some a, _ => '/' :: '/' :: authorityChars a
  | none, [] :: _ :: _ => ['/', '.']
  | none, _ => []

theorem chars_of_rooted {u : Url} {path : List (List Char)} (rooted : u.path = .rooted path)
    (noQuery : u.query = none) (noFragment : u.fragment = none) :
    u.chars = u.scheme ++ ':' :: (lead u.authority path ++ path.flatMap ('/' :: ·)) := by
  unfold chars targetChars pathChars lead
  rw [rooted, noQuery, noFragment]
  cases u.authority with
  | some a => simp
  | none =>
      match path with
      | [] :: _ :: _ => simp
      | (c :: segment) :: rest => simp
      | [[]] => simp
      | [] => simp

/-- What is appended to a path does not change what stands in front of it. -/
theorem lead_append (authority : Option Authority) {front rest : List (List Char)}
    {last first : List Char} (some : first ≠ []) :
    lead authority (front ++ (last ++ first) :: rest) = lead authority (front ++ [last]) := by
  cases authority with
  | some a => rfl
  | none =>
      cases front with
      | nil =>
          obtain ⟨c, segment, same⟩ :=
            List.exists_cons_of_ne_nil (List.append_ne_nil_of_right_ne_nil last some)
          rw [List.nil_append, List.nil_append, same]
          cases last <;> rfl
      | cons head front =>
          cases head with
          | nil => cases front <;> rfl
          | cons c head => rfl

/-- The address of a relative path of plain segments is that of the base's folder with the path
    behind it. -/
theorem text_of_resolve? {base : Url} {path : List (List Char)} (rooted : base.path = .rooted path)
    (kept : trimmed (base.scheme == fileScheme) path = path) {first : List Char}
    {rest : List (List Char)} (plain : Plain first) (others : ∀ segment ∈ rest, Plain segment)
    (some : first ≠ []) {relative : String}
    (joined : relative.toList = first ++ rest.flatMap ('/' :: ·)) :
    ∃ u, base.resolve? relative = .ok u ∧ u.text = (folderUrl base path).text ++ relative := by
  obtain ⟨front, last, shape, same⟩ :=
    resolved_of_plain (base.scheme == fileScheme) path plain others
  have trimmed : trimmed (base.scheme == fileScheme) (front ++ (last ++ first) :: rest) = _ :=
    trimmed_of_folder kept shape some
  refine ⟨{ folderUrl base path with path := .rooted (front ++ (last ++ first) :: rest) }, ?_, ?_⟩
  · unfold resolve?
    rw [rooted]
    dsimp only
    rw [joined, segments_joined _ plain others, same, trimmed]
    rfl
  · have written :=
      chars_of_rooted
        (u := { folderUrl base path with path := .rooted (front ++ (last ++ first) :: rest) })
        rfl rfl rfl
    have whole : (folderUrl base path).chars = _ :=
      chars_of_rooted (congrArg UrlPath.rooted shape) rfl rfl
    rw [lead_append _ some] at written
    rw [text, text, written, whole, ← String.ofList_toList (s := relative),
      ← String.ofList_append, joined]
    simp [folderUrl]

end Url

end LadderAtlas
