import LadderAtlas.Json.Text
import LadderAtlas.Proofs.Json.Scanning

/-! # What is rendered is read back

The tokens of a value are read as that value whatever it is nested in, so reading them from nothing
gives it back. With the scan of a text this makes `Json.parse?` undo `Json.render`, wherever numbers
have digits and strings stay in their quotes.
-/

namespace LadderAtlas.Json

open Reading Token

/-- The tokens of the items after the first one. -/
def moreItems : List Json → List Token → List Token
  | [], rest => rest
  | items, rest => .comma :: itemsOnto items rest

/-- The tokens of the members after the first one. -/
def moreMembers : List (Body × Json) → List Token → List Token
  | [], rest => rest
  | members, rest => .comma :: membersOnto members rest

theorem itemsOnto_cons (item : Json) (items : List Json) (rest : List Token) :
    itemsOnto (item :: items) rest = tokensOnto item (moreItems items rest) := by
  cases items <;> rw [itemsOnto, moreItems] <;> nofun

theorem membersOnto_cons (name : Body) (value : Json) (members : List (Body × Json))
    (rest : List Token) :
    membersOnto ((name, value) :: members) rest =
      .string name :: .colon :: tokensOnto value (moreMembers members rest) := by
  cases members <;> rw [membersOnto, moreMembers] <;> nofun

/-- No value starts with the end of an array. -/
theorem foldlM_step_firstItem (j : Json) (rest : List Token) (frames : List Frame) :
    (tokensOnto j rest).foldlM step ⟨.firstItem, frames⟩ =
      (tokensOnto j rest).foldlM step ⟨.value, frames⟩ := by
  cases j <;> rw [tokensOnto] <;> rfl

-- What follows the value is left open, so that a value that stands inside another one is a case of
-- the same theorem.
mutual

/-- The tokens of a value put the value where it belongs, whatever it is nested in. -/
theorem foldlM_step_tokensOnto (j : Json) (rest : List Token) (frames : List Frame) :
    (tokensOnto j rest).foldlM step ⟨.value, frames⟩ =
      (complete j frames).bind (rest.foldlM step ·) := by
  match j with
  | .null => rfl
  | .bool b => rfl
  | .number n => rfl
  | .string body => rfl
  | .array [] => rfl
  | .array (item :: items) =>
      rw [tokensOnto, itemsOnto_cons]
      change (tokensOnto item (moreItems items (.closeArray :: rest))).foldlM step
        ⟨.firstItem, .array [] :: frames⟩ = _
      rw [foldlM_step_firstItem, foldlM_step_tokensOnto item]
      change (moreItems items (.closeArray :: rest)).foldlM step
        ⟨.separator, .array [item] :: frames⟩ = _
      rw [foldlM_step_moreItems items]
      change (complete (.array (items.reverse ++ [item]).reverse) frames).bind _ = _
      rw [List.reverse_append, List.reverse_reverse]
      rfl
  | .object [] => rfl
  | .object ((name, value) :: members) =>
      rw [tokensOnto, membersOnto_cons]
      change (tokensOnto value (moreMembers members (.closeObject :: rest))).foldlM step
        ⟨.value, .member [] name :: frames⟩ = _
      rw [foldlM_step_tokensOnto value]
      change (moreMembers members (.closeObject :: rest)).foldlM step
        ⟨.separator, .object [(name, value)] :: frames⟩ = _
      rw [foldlM_step_moreMembers members]
      change (complete (.object (members.reverse ++ [(name, value)]).reverse) frames).bind _ = _
      rw [List.reverse_append, List.reverse_reverse]
      rfl
termination_by sizeOf j

theorem foldlM_step_moreItems (items : List Json) (rest : List Token) (found : List Json)
    (frames : List Frame) :
    (moreItems items rest).foldlM step ⟨.separator, .array found :: frames⟩ =
      rest.foldlM step ⟨.separator, .array (items.reverse ++ found) :: frames⟩ := by
  match items with
  | [] => rfl
  | item :: items =>
      rw [moreItems, itemsOnto_cons]
      · change (tokensOnto item (moreItems items rest)).foldlM step
          ⟨.value, .array found :: frames⟩ = _
        rw [foldlM_step_tokensOnto item]
        change (moreItems items rest).foldlM step ⟨.separator, .array (item :: found) :: frames⟩ = _
        rw [foldlM_step_moreItems items, List.reverse_cons, List.append_assoc]
        rfl
      · nofun
termination_by sizeOf items

theorem foldlM_step_moreMembers (members : List (Body × Json)) (rest : List Token)
    (found : List (Body × Json)) (frames : List Frame) :
    (moreMembers members rest).foldlM step ⟨.separator, .object found :: frames⟩ =
      rest.foldlM step ⟨.separator, .object (members.reverse ++ found) :: frames⟩ := by
  match members with
  | [] => rfl
  | (name, value) :: members =>
      rw [moreMembers, membersOnto_cons]
      · change (tokensOnto value (moreMembers members rest)).foldlM step
          ⟨.value, .member found name :: frames⟩ = _
        rw [foldlM_step_tokensOnto value]
        change (moreMembers members rest).foldlM step
          ⟨.separator, .object ((name, value) :: found) :: frames⟩ = _
        rw [foldlM_step_moreMembers members, List.reverse_cons, List.append_assoc]
        rfl
      · nofun
termination_by sizeOf members

end

/-- The tokens of a value are read as the value. -/
theorem ofTokens?_tokensOnto (j : Json) : ofTokens? (tokensOnto j []) = some j := by
  unfold ofTokens?
  rw [foldlM_step_tokensOnto j [] []]
  rfl

/-- A value that can be written: its numbers have digits, and its names and strings stay in their
    quotes. -/
inductive Proper : Json → Prop
  | null : Proper .null
  | bool (value : Bool) : Proper (.bool value)
  | number {n : Number} (digits : n.WellFormed) : Proper (.number n)
  | string {body : Body} (scans : Scans body) : Proper (.string body)
  | array {items : List Json} (proper : ∀ item ∈ items, Proper item) : Proper (.array items)
  | object {members : List (Body × Json)} (scans : ∀ m ∈ members, Scans m.1)
      (proper : ∀ m ∈ members, Proper m.2) : Proper (.object members)

theorem apart_itemsOnto {items : List Json} {rest : List Token}
    (each : ∀ item ∈ items, ∀ ts, EndWord ts → Apart ts → Apart (tokensOnto item ts))
    (ends : EndWord rest) (apart : Apart rest) : Apart (itemsOnto items rest) := by
  induction items with
  | nil => exact apart
  | cons item items ih =>
      have others := ih fun other member => each other (List.mem_cons_of_mem item member)
      rw [itemsOnto_cons]
      cases items with
      | nil => exact each item List.mem_cons_self rest ends apart
      | cons => exact each item List.mem_cons_self _ (by rintro _ ⟨⟩; rfl) ⟨trivial, nofun, others⟩

theorem apart_membersOnto {members : List (Body × Json)} {rest : List Token}
    (scans : ∀ m ∈ members, Scans m.1)
    (each : ∀ m ∈ members, ∀ ts, EndWord ts → Apart ts → Apart (tokensOnto m.2 ts))
    (ends : EndWord rest) (apart : Apart rest) : Apart (membersOnto members rest) := by
  induction members with
  | nil => exact apart
  | cons m members ih =>
      have others := ih (fun other member => scans other (List.mem_cons_of_mem m member))
        fun other member => each other (List.mem_cons_of_mem m member)
      have value : Apart (tokensOnto m.2 (moreMembers members rest)) := by
        cases members with
        | nil => exact each m List.mem_cons_self rest ends apart
        | cons => exact each m List.mem_cons_self _ (by rintro _ ⟨⟩; rfl) ⟨trivial, nofun, others⟩
      rw [membersOnto_cons]
      exact ⟨scans m List.mem_cons_self, nofun, trivial, nofun, value⟩

/-- The tokens of a proper value are told from one another, and from what follows a word. -/
theorem apart_tokensOnto {j : Json} (proper : j.Proper) {rest : List Token} (ends : EndWord rest)
    (apart : Apart rest) : Apart (tokensOnto j rest) := by
  induction proper generalizing rest with
  | null => exact ⟨trivial, fun _ => ends, apart⟩
  | bool => exact ⟨trivial, fun _ => ends, apart⟩
  | number digits => exact ⟨digits, fun _ => ends, apart⟩
  | string scans => exact ⟨scans, fun _ => ends, apart⟩
  | @array items _ each =>
      have inside : Apart (itemsOnto items (.closeArray :: rest)) :=
        apart_itemsOnto (fun item member _ => each item member) (by rintro _ ⟨⟩; rfl)
          ⟨trivial, nofun, apart⟩
      rw [tokensOnto]
      exact ⟨trivial, nofun, inside⟩
  | @object members scans _ each =>
      have inside : Apart (membersOnto members (.closeObject :: rest)) :=
        apart_membersOnto scans (fun m member _ => each m member) (by rintro _ ⟨⟩; rfl)
          ⟨trivial, nofun, apart⟩
      rw [tokensOnto]
      exact ⟨trivial, nofun, inside⟩

/-- A proper value is read back from its text. -/
theorem parse?_render {j : Json} (proper : j.Proper) : parse? j.render = some j := by
  have apart : Apart (tokensOnto j []) := apart_tokensOnto proper nofun trivial
  rw [parse?, render, String.toList_ofList, scan_flatMap_chars apart]
  exact ofTokens?_tokensOnto j

theorem proper_ofInt (n : Int) : Proper (ofInt n) := .number (Number.wellFormed_ofInt n)

theorem proper_record {members : List (String × Json)} (proper : ∀ m ∈ members, Proper m.2) :
    Proper (record members) := by
  refine .object ?_ ?_
  · intro m member
    obtain ⟨named, _, rfl⟩ := List.mem_map.mp member
    exact scans_encode named.1.toList
  · intro m member
    obtain ⟨named, listed, rfl⟩ := List.mem_map.mp member
    exact proper named listed

/-! ## The shape of a text -/

mutual

/-- A value is rendered before whatever follows it. -/
theorem tokensOnto_append (j : Json) (rest ts : List Token) :
    tokensOnto j (rest ++ ts) = tokensOnto j rest ++ ts := by
  match j with
  | .null => rfl
  | .bool b => rfl
  | .number n => rfl
  | .string body => rfl
  | .array [] => rfl
  | .array (item :: items) =>
      have others := moreItems_append items (.closeArray :: rest) ts
      have inside := tokensOnto_append item (moreItems items (.closeArray :: rest)) ts
      simp only [tokensOnto, itemsOnto_cons, List.cons_append] at others inside ⊢
      rw [others, inside]
  | .object [] => rfl
  | .object ((name, value) :: members) =>
      have others := moreMembers_append members (.closeObject :: rest) ts
      have inside := tokensOnto_append value (moreMembers members (.closeObject :: rest)) ts
      simp only [tokensOnto, membersOnto_cons, List.cons_append] at others inside ⊢
      rw [others, inside]
termination_by sizeOf j

theorem moreItems_append (items : List Json) (rest ts : List Token) :
    moreItems items (rest ++ ts) = moreItems items rest ++ ts := by
  match items with
  | [] => rfl
  | item :: items =>
      have inside := tokensOnto_append item (moreItems items rest) ts
      rw [← moreItems_append items rest ts] at inside
      rw [moreItems, moreItems, itemsOnto_cons, itemsOnto_cons, inside, List.cons_append]
      all_goals nofun
termination_by sizeOf items

theorem moreMembers_append (members : List (Body × Json)) (rest ts : List Token) :
    moreMembers members (rest ++ ts) = moreMembers members rest ++ ts := by
  match members with
  | [] => rfl
  | (name, value) :: members =>
      have inside := tokensOnto_append value (moreMembers members rest) ts
      rw [← moreMembers_append members rest ts] at inside
      rw [moreMembers, moreMembers, membersOnto_cons, membersOnto_cons, inside]
      · rfl
      all_goals nofun
termination_by sizeOf members

end

/-- The text that tokens are written as. -/
def written (ts : List Token) : String := String.ofList (ts.flatMap Token.chars)

theorem written_cons (t : Token) (ts : List Token) :
    written (t :: ts) = String.ofList t.chars ++ written ts := by
  rw [written, List.flatMap_cons, String.ofList_append]
  rfl

theorem written_tokensOnto (j : Json) (rest : List Token) :
    written (tokensOnto j rest) = j.render ++ written rest := by
  have apart : tokensOnto j rest = tokensOnto j [] ++ rest := tokensOnto_append j [] rest
  rw [apart, written, List.flatMap_append, String.ofList_append]
  rfl

theorem written_itemsOnto (items : List Json) (rest : List Token) :
    written (itemsOnto items rest) = ",".intercalate (items.map render) ++ written rest := by
  induction items with
  | nil => rw [itemsOnto, List.map_nil, String.intercalate_nil, String.empty_append]
  | cons item items ih =>
      rw [itemsOnto_cons, written_tokensOnto]
      cases items with
      | nil => rw [moreItems, List.map_singleton, String.intercalate_singleton]
      | cons next items =>
          have comma : written (moreItems (next :: items) rest) =
              "," ++ written (itemsOnto (next :: items) rest) :=
            written_cons .comma _
          rw [comma, ih]
          simp only [List.map_cons, String.intercalate_cons_cons, String.append_assoc]

/-- The text of a member. -/
def memberText (m : Body × Json) : String := "\"" ++ String.ofList m.1 ++ "\":" ++ m.2.render

theorem written_membersOnto (members : List (Body × Json)) (rest : List Token) :
    written (membersOnto members rest) = ",".intercalate (members.map memberText) ++
      written rest := by
  have first (m : Body × Json) (rest : List Token) :
      written (.string m.1 :: .colon :: tokensOnto m.2 rest) = memberText m ++ written rest := by
    have named : String.ofList (Token.string m.1).chars ++ String.ofList Token.colon.chars =
        "\"" ++ String.ofList m.1 ++ "\":" := by
      apply String.toList_injective
      simp [Token.chars]
    rw [written_cons, written_cons, written_tokensOnto, memberText, ← named]
    simp only [String.append_assoc]
  induction members with
  | nil => rw [membersOnto, List.map_nil, String.intercalate_nil, String.empty_append]
  | cons m members ih =>
      rw [membersOnto_cons, first]
      cases members with
      | nil => rw [moreMembers, List.map_singleton, String.intercalate_singleton]
      | cons next members =>
          have comma : written (moreMembers (next :: members) rest) =
              "," ++ written (membersOnto (next :: members) rest) := written_cons .comma _
          rw [comma, ih]
          simp only [List.map_cons, String.intercalate_cons_cons, String.append_assoc]

/-- An array is rendered as its items with commas between them. -/
theorem render_array (items : List Json) :
    (Json.array items).render = "[" ++ ",".intercalate (items.map render) ++ "]" := by
  change written (.openArray :: itemsOnto items [.closeArray]) = _
  rw [written_cons, written_itemsOnto, String.append_assoc]
  rfl

/-- An object is rendered as its members with commas between them. -/
theorem render_object (members : List (Body × Json)) :
    (Json.object members).render =
      "\x7b" ++ ",".intercalate (members.map memberText) ++ "\x7d" := by
  change written (.openObject :: membersOnto members [.closeObject]) = _
  rw [written_cons, written_membersOnto, String.append_assoc]
  rfl

theorem render_record (members : List (String × Json)) :
    (record members).render = "\x7b" ++ ",".intercalate (members.map fun m =>
      "\"" ++ String.ofList (encode m.1.toList) ++ "\":" ++ m.2.render) ++ "\x7d" := by
  rw [record, render_object, List.map_map]
  rfl

/-- An integer is rendered as its numeral. -/
theorem render_ofInt (n : Int) : (ofInt n).render = Numeral.text n := by
  change String.ofList ((Number.ofInt n).chars ++ []) = _
  rw [List.append_nil, Number.chars_ofInt]
  rfl

end LadderAtlas.Json
