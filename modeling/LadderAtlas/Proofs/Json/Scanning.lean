import LadderAtlas.Proofs.Json.Numbers
import Mathlib.Data.List.Basic

/-! # Texts are cut into the tokens they were written from

Tokens are written one after the other without blanks. A punctuation mark ends where it is and a
string at its closing quote, while a word goes on until something that is no part of a word: so
tokens are told from one another as long as no word follows a word directly.
-/

namespace LadderAtlas.Json

open Token

/-- A body of a string that a scan runs through, still in the string after it and outside of any
    escape. -/
def Scans (body : Body) : Prop :=
  ∀ reversed found, body.foldlM Scan.step ⟨.string reversed 0, found⟩ =
    some ⟨.string (body.reverse ++ reversed) 0, found⟩

theorem Scans.append {body rest : Body} (h : Scans body) (hrest : Scans rest) :
    Scans (body ++ rest) := by
  intro reversed found
  rw [List.foldlM_append, h reversed found]
  simpa [List.append_assoc] using hrest (body.reverse ++ reversed) found

theorem hex?_hexDigit : ∀ n < 16, hex? (hexDigit n) = some n := by decide

/-- The code unit that an escaped control character is written as. -/
theorem hex4?_hexDigit {n : Nat} (control : n < 0x20) :
    hex4? '0' '0' (hexDigit (n / 16)) (hexDigit (n % 16)) = some n := by
  have zero : hex? '0' = some 0 := by decide
  have high := hex?_hexDigit (n / 16) (by omega)
  have low := hex?_hexDigit (n % 16) (by omega)
  simp only [hex4?, zero, high, low, Option.bind_eq_bind, Option.bind_some, Option.pure_def,
    Option.some_inj]
  omega

/-- An escape is followed to its end, and what needs none is neither a quote nor a backslash nor a
    control character. -/
theorem scans_encodeChar (c : Char) : Scans (encodeChar c) := by
  intro reversed found
  unfold encodeChar
  split
  case h_8 quote backslash _ _ _ _ _ =>
    split
    next control =>
      have zero : hex? '0' = some 0 := by decide
      have high := hex?_hexDigit (c.toNat / 16) (by omega)
      have low := hex?_hexDigit (c.toNat % 16) (by omega)
      simp [Scan.step, zero, high, low]
    next plain =>
      have noQuote : c ≠ '"' := quote
      have noBackslash : c ≠ '\\' := backslash
      simp [Scan.step, noQuote, noBackslash, plain]
  all_goals rfl

/-- What characters are written as in a string runs through a scan. -/
theorem scans_encode (cs : List Char) : Scans (encode cs) := by
  induction cs with
  | nil => exact fun _ _ => rfl
  | cons c cs ih => exact (scans_encodeChar c).append ih

theorem decode?_plain {c : Char} (plain : c ≠ '\\') (rest : Body) :
    decode? (c :: rest) = (decode? rest).map (c :: ·) := by
  rw [decode?]
  · cases decode? rest <;> rfl
  all_goals simp_all

theorem decode?_escape {c d : Char} (known : plainEscape? c = some d) (rest : Body) :
    decode? ('\\' :: c :: rest) = (decode? rest).map (d :: ·) := by
  rw [decode?, known]
  · cases decode? rest <;> rfl
  · rintro _ _ _ _ _ ⟨rfl, -⟩
    cases known

theorem decode?_unit {a b c d : Char} {unit : Nat} (known : hex4? a b c d = some unit)
    (lone : unit < 0xD800) (rest : Body) :
    decode? ('\\' :: 'u' :: a :: b :: c :: d :: rest) =
      (decode? rest).map (Char.ofNat unit :: ·) := by
  have notLeading : isLeading unit = false := by simp [isLeading]; omega
  have notTrailing : isTrailing unit = false := by simp [isTrailing]; omega
  rw [decode?, known]
  simp only [Option.bind_eq_bind, Option.bind_some, notLeading, notTrailing]
  cases decode? rest <;> rfl

theorem decode?_encodeChar (c : Char) (rest : Body) :
    decode? (encodeChar c ++ rest) = (decode? rest).map (c :: ·) := by
  unfold encodeChar
  split
  case h_8 quote backslash _ _ _ _ _ =>
    split
    next control =>
      have decoded := decode?_unit (hex4?_hexDigit control) (by omega) rest
      rwa [Char.ofNat_toNat] at decoded
    next => exact decode?_plain backslash rest
  all_goals exact decode?_escape rfl rest

/-- The characters that a string is written for are read back from its body. -/
theorem decode?_encode (cs : List Char) : decode? (encode cs) = some cs := by
  induction cs with
  | nil => rfl
  | cons c cs ih =>
      rw [encode, List.flatMap_cons, decode?_encodeChar, ← encode, ih]
      rfl

/-! ## Tokens -/

namespace Token

/-- A token that can be written: a number is made of digits, and the body of a string stays in its
    quotes. -/
def Proper : Token → Prop
  | .number n => n.WellFormed
  | .string body => Scans body
  | _ => True

/-- Whether a token is a word, which goes on as long as there are characters of words. -/
def isWord : Token → Bool
  | .null | .bool _ | .number _ => true
  | _ => false

/-- No number has the letters of the other words. -/
theorem ofWord?_chars_number {n : Number} (h : n.WellFormed) :
    ofWord? n.chars = some (.number n) := by
  have other (word : List Char) (letter : Char) (member : letter ∈ word)
      (strange : ¬(letter.isDigit = true ∨ letter ∈ ['e', '+', '-', '.'])) : n.chars ≠ word := by
    rintro rfl
    exact strange (n.mem_chars h member)
  have notNull := other nullWord 'n' (by decide) (by decide)
  have notTrue := other trueWord 't' (by decide) (by decide)
  have notFalse := other falseWord 'f' (by decide) (by decide)
  rw [ofWord?, if_neg notNull, if_neg notTrue, if_neg notFalse, n.ofChars?_chars h, Option.map_some]

/-- A word is found where its characters end. -/
theorem ofWord?_chars {t : Token} (proper : t.Proper) (word : t.isWord = true) :
    ofWord? t.chars = some t := by
  cases t with
  | null => rfl
  | bool b => cases b <;> rfl
  | number n => exact ofWord?_chars_number proper
  | _ => cases word

theorem isWordChar_of_mem_chars {t : Token} (proper : t.Proper) (word : t.isWord = true) :
    ∀ c ∈ t.chars, isWordChar c = true := by
  cases t with
  | null => exact List.all_eq_true.mp (by decide)
  | bool b => cases b <;> exact List.all_eq_true.mp (by decide)
  | number n =>
      intro c member
      rcases n.mem_chars proper member with digit | mark
      · simp [isWordChar, Char.isAlphanum, digit]
      · have marks : ['e', '+', '-', '.'].all isWordChar = true := by decide
        exact List.all_eq_true.mp marks c mark
  | _ => cases word

theorem chars_ne_nil {t : Token} (proper : t.Proper) : t.chars ≠ [] := by
  cases t with
  | bool b => cases b <;> decide
  | number n =>
      intro empty
      obtain ⟨first, others, whole⟩ := List.exists_cons_of_ne_nil (proper : n.WellFormed).whole.some
      have none : n.chars = [] := empty
      simp [n.chars_eq, Number.unsignedChars, whole] at none
  | _ => exact List.cons_ne_nil _ _

/-- What is no word starts with a character of none. -/
theorem exists_head_chars {t : Token} (mark : t.isWord = false) :
    ∃ c rest, t.chars = c :: rest ∧ isWordChar c = false := by
  cases t with
  | null => cases mark
  | bool b => cases mark
  | number n => cases mark
  | _ => exact ⟨_, _, rfl, by decide⟩

/-- No character of a word is a blank or a quote. -/
theorem start_of_isWordChar {c : Char} (word : isWordChar c = true) (found : List Token) :
    Scan.start found c = some ⟨.word [c], found⟩ := by
  have blank : isSpace c = false := by
    rw [Bool.eq_false_iff]
    intro space
    simp only [isSpace, Bool.or_eq_true, beq_iff_eq] at space
    obtain ((rfl | rfl) | rfl) | rfl := space <;> exact absurd word (by decide)
  have quote : (c == '"') = false := by
    rw [beq_eq_false_iff_ne]
    rintro rfl
    exact absurd word (by decide)
  simp [Scan.start, blank, quote, word]

theorem foldlM_step_word {cs : List Char} (word : ∀ c ∈ cs, isWordChar c = true)
    (reversed : List Char) (found : List Token) :
    cs.foldlM Scan.step ⟨.word reversed, found⟩ = some ⟨.word (cs.reverse ++ reversed), found⟩ := by
  induction cs generalizing reversed with
  | nil => rfl
  | cons c cs ih =>
      have first : Scan.step ⟨.word reversed, found⟩ c = some ⟨.word (c :: reversed), found⟩ := by
        simp [Scan.step, word c List.mem_cons_self]
      rw [List.foldlM_cons, first]
      simpa using ih (fun d member => word d (List.mem_cons_of_mem c member)) (c :: reversed)

/-- Where a scan stands after the characters of a token: a word is still open. -/
def scanned (found : List Token) (t : Token) : Scan :=
  if t.isWord then ⟨.word t.chars.reverse, found⟩ else ⟨.between, t :: found⟩

/-- The characters of a token are scanned from between tokens. -/
theorem foldlM_step_chars {t : Token} (proper : t.Proper) (found : List Token) :
    t.chars.foldlM Scan.step ⟨.between, found⟩ = some (scanned found t) := by
  by_cases word : t.isWord = true
  · have letters := isWordChar_of_mem_chars proper word
    obtain ⟨c, cs, chars⟩ := List.exists_cons_of_ne_nil (chars_ne_nil proper)
    rw [chars] at letters
    have first : Scan.step ⟨.between, found⟩ c = some ⟨.word [c], found⟩ :=
      start_of_isWordChar (letters c List.mem_cons_self) found
    rw [scanned, if_pos word, chars, List.foldlM_cons, first]
    simpa using foldlM_step_word (fun d member => letters d (List.mem_cons_of_mem c member)) [c]
      found
  · cases t with
    | null => exact absurd rfl word
    | bool b => exact absurd rfl word
    | number n => exact absurd rfl word
    | string body =>
        have scans : Scans body := proper
        have inside := scans [] found
        rw [chars, List.foldlM_cons]
        change (body ++ ['"']).foldlM Scan.step ⟨.string [] 0, found⟩ = _
        rw [List.foldlM_append, inside]
        simp [Scan.step, scanned, isWord]
    | _ => rfl

/-- Before what is no word, a word that is still open is as good as found. -/
theorem foldlM_step_scanned {t next : Token} (proper : t.Proper)
    (apart : t.isWord = true → next.isWord = false) (found : List Token) :
    next.chars.foldlM Scan.step (scanned found t) =
      next.chars.foldlM Scan.step ⟨.between, t :: found⟩ := by
  by_cases word : t.isWord = true
  · obtain ⟨c, rest, chars, mark⟩ := exists_head_chars (apart word)
    have ended : Scan.step (scanned found t) c = Scan.step ⟨.between, t :: found⟩ c := by
      simp [Scan.step, scanned, word, mark, ofWord?_chars proper word]
    rw [chars, List.foldlM_cons, List.foldlM_cons, ended]
  · rw [scanned, if_neg word]

theorem finish_scanned {t : Token} (proper : t.Proper) (found : List Token) :
    (scanned found t).finish = some (t :: found).reverse := by
  by_cases word : t.isWord = true
  · simp [scanned, word, Scan.finish, ofWord?_chars proper word]
  · simp [scanned, word, Scan.finish]

/-- Tokens that a word ends before. -/
def EndWord (ts : List Token) : Prop := ∀ next ∈ ts.head?, next.isWord = false

/-- Tokens that are proper, no word following a word. -/
def Apart : List Token → Prop
  | [] => True
  | t :: rest => t.Proper ∧ (t.isWord = true → EndWord rest) ∧ Apart rest

/-- From the characters of a token on, all tokens that follow are found. -/
theorem scan_from {t : Token} {ts : List Token} (apart : Apart (t :: ts)) (found : List Token) :
    ((ts.flatMap chars).foldlM Scan.step (scanned found t)).bind Scan.finish =
      some (found.reverse ++ t :: ts) := by
  -- what is carried along the tokens is where the last one leaves the scan: its word may still be
  -- open
  induction ts generalizing t found with
  | nil =>
      have finished := finish_scanned apart.1 found
      simpa using finished
  | cons next ts ih =>
      obtain ⟨proper, between, rest⟩ := apart
      have here := foldlM_step_scanned proper (fun word => between word next rfl) found
      rw [List.flatMap_cons, List.foldlM_append, here, foldlM_step_chars rest.1]
      simpa using ih rest (t :: found)

/-- Tokens that are apart are what a scan of their characters finds. -/
theorem scan_flatMap_chars {ts : List Token} (apart : Apart ts) :
    scan (ts.flatMap chars) = some ts := by
  cases ts with
  | nil => rfl
  | cons t ts =>
      unfold scan
      rw [List.flatMap_cons, List.foldlM_append, foldlM_step_chars apart.1]
      exact scan_from apart []

end Token

end LadderAtlas.Json
