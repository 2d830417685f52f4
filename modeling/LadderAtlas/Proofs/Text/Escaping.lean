import LadderAtlas.Text.Xml
import Mathlib.Data.List.Basic

/-! # Escaping

Four characters never come out of escaping as themselves: three are gone, and the ampersand only
begins an entity. One pass from left to right puts the characters back, so nothing is lost.
-/

namespace LadderAtlas.Xml

/-- The characters that are escaped, with the entities that stand for them. -/
def entities : List (Char × List Char) :=
  [('&', "&amp;".toList), ('<', "&lt;".toList), ('>', "&gt;".toList), ('\x27', "&apos;".toList)]

/-- A text with every occurrence of a character replaced. -/
def substitute (c : Char) (replacement cs : List Char) : List Char :=
  cs.flatMap fun d => if d = c then replacement else [d]

/-- A text with its entities replaced by what they stand for, in one pass from left to right. -/
def unescape : List Char → List Char
  | '&' :: 'a' :: 'm' :: 'p' :: ';' :: rest => '&' :: unescape rest
  | '&' :: 'l' :: 't' :: ';' :: rest => '<' :: unescape rest
  | '&' :: 'g' :: 't' :: ';' :: rest => '>' :: unescape rest
  | '&' :: 'a' :: 'p' :: 'o' :: 's' :: ';' :: rest => '\x27' :: unescape rest
  | c :: rest => c :: unescape rest
  | [] => []

/-- How a character is escaped: as its entity, or not at all. -/
inductive Escaped : Char → List Char → Prop where
  | entity {c : Char} {written : List Char} (listed : (c, written) ∈ entities) : Escaped c written
  | plain {c : Char} (noMarkup : c ≠ '&' ∧ c ≠ '<' ∧ c ≠ '>' ∧ c ≠ '\x27') : Escaped c [c]

theorem escaped (c : Char) : Escaped c (escapeChar c) := by
  unfold escapeChar
  split
  · next amp => exact .entity (by rw [amp]; decide)
  split
  · next lt => exact .entity (by rw [lt]; decide)
  split
  · next gt => exact .entity (by rw [gt]; decide)
  split
  · next apos => exact .entity (by rw [apos]; decide)
  · next amp lt gt apos => exact .plain ⟨amp, lt, gt, apos⟩

theorem escape_cons (c : Char) (cs : List Char) :
    escape (c :: cs) = escapeChar c ++ escape cs := rfl

/-- What is written for a character that is escaped is one of four texts. -/
theorem entities_cases {c : Char} {written : List Char} (listed : (c, written) ∈ entities) :
    c = '&' ∧ written = "&amp;".toList ∨ c = '<' ∧ written = "&lt;".toList ∨
      c = '>' ∧ written = "&gt;".toList ∨ c = '\x27' ∧ written = "&apos;".toList := by
  simpa [entities] using listed

/-- The four characters can be replaced one after another if the ampersand comes first: the later
    replacements find nothing in what the earlier ones have written. -/
theorem escape_eq_substitute (cs : List Char) :
    escape cs = substitute '\x27' "&apos;".toList (substitute '>' "&gt;".toList
      (substitute '<' "&lt;".toList (substitute '&' "&amp;".toList cs))) := by
  have split (d : Char) (replacement xs ys : List Char) : substitute d replacement (xs ++ ys) =
      substitute d replacement xs ++ substitute d replacement ys := List.flatMap_append
  induction cs with
  | nil => rfl
  | cons c cs ih =>
      rw [← List.singleton_append, split, split, split, split, List.singleton_append,
        escape_cons, ih]
      congr 1
      generalize escapeChar c = written, escaped c = how
      cases how with
      | entity listed =>
          obtain ⟨rfl, rfl⟩ | ⟨rfl, rfl⟩ | ⟨rfl, rfl⟩ | ⟨rfl, rfl⟩ :=
            entities_cases listed <;> decide
      | plain noMarkup => simp [substitute, noMarkup]

theorem not_mem_escape {cs : List Char} {c : Char} (member : c ∈ escape cs) :
    c ≠ '<' ∧ c ≠ '>' ∧ c ≠ '\x27' := by
  have entity : ∀ pair ∈ entities, ∀ c ∈ pair.2, c ≠ '<' ∧ c ≠ '>' ∧ c ≠ '\x27' := by
    simp [entities]
  obtain ⟨d, -, written⟩ := List.mem_flatMap.mp member
  generalize escapeChar d = text, escaped d = how at written
  cases how with
  | entity listed => exact entity _ listed c written
  | plain noMarkup =>
      rw [List.mem_singleton.mp written]
      exact noMarkup.2

/-- An ampersand in what is written for a character is at the front of an entity. -/
theorem Escaped.of_ampersand {c : Char} {before after : List Char}
    (h : Escaped c (before ++ '&' :: after)) : before = [] ∧ (c, '&' :: after) ∈ entities := by
  generalize whole : before ++ '&' :: after = written at h
  cases h with
  | entity listed =>
      have front : ∀ pair ∈ entities, '&' ∉ pair.2.tail := by decide
      cases before with
      | nil =>
          rw [← List.nil_append ('&' :: after), whole]
          exact ⟨rfl, listed⟩
      | cons b before =>
          have late : '&' ∈ written.tail := by simp [← whole]
          exact absurd late (front _ listed)
  | plain noMarkup =>
      have alone : '&' ∈ [c] := by simp [← whole]
      exact absurd (List.mem_singleton.mp alone).symm noMarkup.1

theorem exists_entity_of_ampersand {cs before after : List Char}
    (split : escape cs = before ++ '&' :: after) : ∃ pair ∈ entities, pair.2 <+: '&' :: after := by
  induction cs generalizing before with
  | nil => simp [escape] at split
  | cons c cs ih =>
      rw [escape_cons] at split
      obtain ⟨rest, -, later⟩ | ⟨rest, here, follows⟩ := List.append_eq_append_iff.mp split
      · exact ih later
      · cases rest with
        | nil =>
            have front : escape cs = [] ++ '&' :: after := follows.symm
            exact ih front
        | cons d rest =>
            obtain ⟨rfl, tail⟩ := List.cons.inj follows
            have how := escaped c
            rw [here] at how
            exact ⟨_, how.of_ampersand.2, escape cs, follows.symm⟩

theorem unescape_escape (cs : List Char) : unescape (escape cs) = cs := by
  induction cs with
  | nil => rfl
  | cons c cs ih =>
      rw [escape_cons]
      generalize escapeChar c = text, escaped c = how
      cases how with
      | entity listed =>
          obtain ⟨rfl, rfl⟩ | ⟨rfl, rfl⟩ | ⟨rfl, rfl⟩ | ⟨rfl, rfl⟩ := entities_cases listed <;>
            simp [unescape, ih]
      | plain noMarkup => simp [unescape, ih, noMarkup.1]

theorem escape_injective : Function.Injective escape :=
  Function.LeftInverse.injective unescape_escape

end LadderAtlas.Xml
