import LadderAtlas.Proofs.Text.Escaping

/-! # Reading XML back

A reader takes the text of an XML document character by character. It keeps the elements that are
open on a stack and gives the document piece by piece: start tags with their attributes, characters
of the text, end tags. It is stricter than XML asks for, so what it accepts is well formed: names
are ASCII letters, digits and hyphens, one blank stands before each attribute, values are in single
quotes, an attribute is given once, and of the markup characters only the entities are let through.
A tree with proper names is read back as it is, whatever its attributes and texts say.
-/

namespace LadderAtlas.Xml

/-- Whether XML admits a character. -/
def admits (c : Char) : Bool :=
  c == '\t' || c == '\n' || c == '\r' || (decide (0x20 ≤ c.toNat) && decide (c.toNat ≤ 0xD7FF))
    || (decide (0xE000 ≤ c.toNat) && decide (c.toNat ≤ 0xFFFD)) || decide (0x10000 ≤ c.toNat)

/-- What XML consists of, in the order of the text. A tag that closes itself counts as a start and
    an end. -/
inductive Piece where
  | opening (name : String) (attributes : List (String × String))
  | char (c : Char)
  | closing (name : String)
  deriving Repr, DecidableEq

/-! ## The reader -/

/-- A start tag as far as it has been read. -/
structure Tag where
  name : List Char
  attributes : List (String × String)

/-- What a reader is in the middle of. -/
inductive Place where
  | content
  /-- Behind an ampersand of the content. -/
  | entity (name : List Char)
  /-- Behind a `<`: in the name of a start tag, or behind one of its attributes. -/
  | tag (tag : Tag)
  /-- In the name of an attribute. -/
  | attribute (tag : Tag) (name : List Char)
  /-- Behind the equals sign. -/
  | equals (tag : Tag) (name : List Char)
  | value (tag : Tag) (name value : List Char)
  /-- Behind an ampersand of a value. -/
  | valueEntity (tag : Tag) (name value entity : List Char)
  /-- Behind the slash of a tag that closes itself. -/
  | slash (tag : Tag)
  /-- In the name of an end tag. -/
  | ending (name : List Char)

/-- How far a document has been read. -/
structure Reader where
  /-- The names of the elements that are open, the innermost first. -/
  stack : List String
  pieces : List Piece
  place : Place

def isBlank (c : Char) : Bool := c == ' ' || c == '\t' || c == '\n' || c == '\r'

def inName (c : Char) : Bool := c.isAlpha || c.isDigit || c == '-'

/-- Names of elements and attributes: letters, digits and hyphens, a letter first. -/
def isName : List Char → Bool
  | [] => false
  | c :: cs => c.isAlpha && cs.all inName

/-- What an entity stands for, by its name behind the ampersand and before the semicolon. -/
def entity? (name : List Char) : Option Char :=
  (entities.find? fun pair => pair.2 == '&' :: (name ++ [';'])).map (·.1)

namespace Reader

def go (r : Reader) (place : Place) : Reader := { r with place := place }

def give (r : Reader) (pieces : List Piece) : Reader := { r with pieces := r.pieces ++ pieces }

/-- A reader at the start of a document. -/
def new : Reader := ⟨[], [], .content⟩

/-- A character of the content. Outside the root there are only blanks, and there is one root. -/
def inContent? (r : Reader) (c : Char) : Option Reader :=
  if c = '<' then
    if r.stack.isEmpty && !r.pieces.isEmpty then none else some (r.go (.tag ⟨[], []⟩))
  else if r.stack.isEmpty then if isBlank c then some r else none
  else if c = '&' then some (r.go (.entity []))
  else if c = '>' || !admits c then none
  else some (r.give [.char c])

/-- A character of a tag outside of its attributes. A slash in place of a name makes it an end
    tag. -/
def inTag? (r : Reader) (tag : Tag) (c : Char) : Option Reader :=
  if tag.attributes.isEmpty && inName c then some (r.go (.tag ⟨tag.name ++ [c], []⟩))
  else if tag.name.isEmpty && c == '/' then some (r.go (.ending []))
  else if !isName tag.name then none
  else if c = ' ' then some (r.go (.attribute tag []))
  else if c = '/' then some (r.go (.slash tag))
  else if c = '>' then
    let name := String.ofList tag.name
    some ⟨name :: r.stack, r.pieces ++ [.opening name tag.attributes], .content⟩
  else none

def inAttribute? (r : Reader) (tag : Tag) (name : List Char) (c : Char) : Option Reader :=
  if inName c then some (r.go (.attribute tag (name ++ [c])))
  else if c == '=' && isName name then some (r.go (.equals tag name))
  else none

/-- A character of a value. The quote ends it, if the tag has no such attribute yet. -/
def inValue? (r : Reader) (tag : Tag) (name value : List Char) (c : Char) : Option Reader :=
  if c = '\x27' then
    let name := String.ofList name
    if (tag.attributes.map Prod.fst).contains name then none
    else some (r.go (.tag ⟨tag.name, tag.attributes ++ [(name, String.ofList value)]⟩))
  else if c = '&' then some (r.go (.valueEntity tag name value []))
  else if c = '<' || !admits c then none
  else some (r.go (.value tag name (value ++ [c])))

/-- A character of an end tag, which names the innermost element that is open. -/
def inEnding? (r : Reader) (name : List Char) (c : Char) : Option Reader :=
  if inName c then some (r.go (.ending (name ++ [c])))
  else
    match r.stack with
    | top :: rest =>
      if c == '>' && top == String.ofList name then
        some ⟨rest, r.pieces ++ [.closing top], .content⟩
      else none
    | [] => none

def next? (r : Reader) (c : Char) : Option Reader :=
  match r.place with
  | .content => r.inContent? c
  | .entity name =>
    if c = ';' then (entity? name).map fun d => (r.give [.char d]).go .content
    else some (r.go (.entity (name ++ [c])))
  | .tag tag => r.inTag? tag c
  | .attribute tag name => r.inAttribute? tag name c
  | .equals tag name => if c = '\x27' then some (r.go (.value tag name [])) else none
  | .value tag name value => r.inValue? tag name value c
  | .valueEntity tag name value entity =>
    if c = ';' then (entity? entity).map fun d => r.go (.value tag name (value ++ [d]))
    else some (r.go (.valueEntity tag name value (entity ++ [c])))
  | .slash tag =>
    if c = '>' then
      let name := String.ofList tag.name
      some ((r.give [.opening name tag.attributes, .closing name]).go .content)
    else none
  | .ending name => r.inEnding? name c

end Reader

/-- The pieces of a document, if it is well formed: one root with all that is opened in it
    closed. -/
def read? (text : String) : Option (List Piece) :=
  match text.toList.foldlM Reader.next? Reader.new with
  | some ⟨[], piece :: pieces, .content⟩ => some (piece :: pieces)
  | _ => none

/-! ## Trees -/

mutual

/-- A tree piece by piece. -/
def pieces : Xml → List Piece
  | .text content => content.toList.map .char
  | .empty name attributes => [.opening name attributes, .closing name]
  | .element name attributes content =>
    .opening name attributes :: (contentPieces content ++ [.closing name])

@[inherit_doc pieces]
def contentPieces : List Xml → List Piece
  | [] => []
  | x :: rest => pieces x ++ contentPieces rest

end

/-- A text of characters that XML admits. -/
def Admitted (text : String) : Prop := ∀ c ∈ text.toList, admits c = true

instance (text : String) : Decidable (Admitted text) :=
  decidable_of_iff (text.toList.all admits = true) List.all_eq_true

/-- Attributes with names, no two the same, that say what XML admits. -/
structure ProperTag (name : String) (attributes : List (String × String)) : Prop where
  name : isName name.toList = true
  names : ∀ pair ∈ attributes, isName pair.1.toList = true
  distinct : (attributes.map Prod.fst).Nodup
  values : ∀ pair ∈ attributes, Admitted pair.2

mutual

/-- A tree whose names are names and whose texts are admitted. -/
def Proper : Xml → Prop
  | .text content => Admitted content
  | .empty name attributes => ProperTag name attributes
  | .element name attributes content => ProperTag name attributes ∧ ProperContent content

@[inherit_doc Proper]
def ProperContent : List Xml → Prop
  | [] => True
  | x :: rest => Proper x ∧ ProperContent rest

end

/-! ## Reading what is written -/

namespace Reader

/-- A reader gets from one state to another by reading a text. -/
def Reads (r : Reader) (cs : List Char) (r' : Reader) : Prop := cs.foldlM next? r = some r'

theorem Reads.append {r r' r'' : Reader} {cs ds : List Char} (first : Reads r cs r')
    (second : Reads r' ds r'') : Reads r (cs ++ ds) r'' := by
  rw [Reads, List.foldlM_append, first]
  exact second

theorem Reads.cons {r r' r'' : Reader} {c : Char} {cs : List Char} (first : r.next? c = some r')
    (second : Reads r' cs r'') : Reads r (c :: cs) r'' := by
  rw [Reads, List.foldlM_cons, first]
  exact second

theorem reads_nil (r : Reader) : Reads r [] r := rfl

theorem reads_one {r r' : Reader} {c : Char} (step : r.next? c = some r') : Reads r [c] r' :=
  .cons step (reads_nil r')

theorem inName_of_isName {name : List Char} (h : isName name = true) :
    ∀ c ∈ name, inName c = true := by
  cases name with
  | nil => simp
  | cons c cs =>
      simp only [isName, Bool.and_eq_true, List.all_eq_true] at h
      intro d member
      rcases List.mem_cons.mp member with rfl | later
      · simp [inName, h.1]
      · exact h.2 d later

/-! ### Tags -/

theorem reads_tagName (r : Reader) (start : List Char) {cs : List Char}
    (h : ∀ c ∈ cs, inName c = true) :
    Reads (r.go (.tag ⟨start, []⟩)) cs (r.go (.tag ⟨start ++ cs, []⟩)) := by
  induction cs generalizing start with
  | nil =>
      rw [List.append_nil]
      exact reads_nil _
  | cons c cs ih =>
      have step : (r.go (.tag ⟨start, []⟩)).next? c = some (r.go (.tag ⟨start ++ [c], []⟩)) := by
        simp [next?, go, inTag?, h c List.mem_cons_self]
      have rest := ih (start ++ [c]) fun d member => h d (List.mem_cons_of_mem c member)
      rw [List.append_assoc] at rest
      exact .cons step rest

theorem reads_attributeName (r : Reader) (tag : Tag) (start : List Char) {cs : List Char}
    (h : ∀ c ∈ cs, inName c = true) :
    Reads (r.go (.attribute tag start)) cs (r.go (.attribute tag (start ++ cs))) := by
  induction cs generalizing start with
  | nil =>
      rw [List.append_nil]
      exact reads_nil _
  | cons c cs ih =>
      have step : (r.go (.attribute tag start)).next? c =
          some (r.go (.attribute tag (start ++ [c]))) := by
        simp [next?, go, inAttribute?, h c List.mem_cons_self]
      have rest := ih (start ++ [c]) fun d member => h d (List.mem_cons_of_mem c member)
      rw [List.append_assoc] at rest
      exact .cons step rest

theorem reads_endingName (r : Reader) (start : List Char) {cs : List Char}
    (h : ∀ c ∈ cs, inName c = true) :
    Reads (r.go (.ending start)) cs (r.go (.ending (start ++ cs))) := by
  induction cs generalizing start with
  | nil =>
      rw [List.append_nil]
      exact reads_nil _
  | cons c cs ih =>
      have step : (r.go (.ending start)).next? c = some (r.go (.ending (start ++ [c]))) := by
        simp [next?, go, inEnding?, h c List.mem_cons_self]
      have rest := ih (start ++ [c]) fun d member => h d (List.mem_cons_of_mem c member)
      rw [List.append_assoc] at rest
      exact .cons step rest

/-- A value is read as what was escaped. -/
theorem reads_value (r : Reader) (tag : Tag) (name start : List Char) {cs : List Char}
    (h : ∀ c ∈ cs, admits c = true) :
    Reads (r.go (.value tag name start)) (escape cs) (r.go (.value tag name (start ++ cs))) := by
  induction cs generalizing start with
  | nil =>
      rw [List.append_nil]
      exact reads_nil _
  | cons c cs ih =>
      have rest := ih (start ++ [c]) fun d member => h d (List.mem_cons_of_mem c member)
      rw [List.append_assoc] at rest
      have admitted := h c List.mem_cons_self
      rw [escape_cons]
      refine .append ?_ rest
      generalize escapeChar c = written, escaped c = how
      cases how with
      | entity listed =>
          obtain ⟨rfl, rfl⟩ | ⟨rfl, rfl⟩ | ⟨rfl, rfl⟩ | ⟨rfl, rfl⟩ := entities_cases listed <;> rfl
      | plain noMarkup =>
          apply reads_one
          simp [next?, go, inValue?, noMarkup, admitted]

theorem reads_attribute (r : Reader) {tag : Tag} (named : isName tag.name = true)
    {pair : String × String} (name : isName pair.1.toList = true)
    (unused : pair.1 ∉ tag.attributes.map Prod.fst) (value : Admitted pair.2) :
    Reads (r.go (.tag tag)) (attributeChars pair)
      (r.go (.tag ⟨tag.name, tag.attributes ++ [pair]⟩)) := by
  have blank : (r.go (.tag tag)).next? ' ' = some (r.go (.attribute tag [])) := by
    simp [next?, go, inTag?, named, inName]
  have equals : (r.go (.attribute tag pair.1.toList)).next? '=' =
      some (r.go (.equals tag pair.1.toList)) := by
    simp [next?, go, inAttribute?, name, inName]
  have quote : (r.go (.value tag pair.1.toList pair.2.toList)).next? '\x27' =
      some (r.go (.tag ⟨tag.name, tag.attributes ++ [pair]⟩)) := by
    simp only [List.mem_map, Prod.exists, exists_and_right, exists_eq_right, not_exists] at unused
    simp [next?, go, inValue?, unused]
  have opened : Reads (r.go (.attribute tag pair.1.toList)) ['=', '\x27']
      (r.go (.value tag pair.1.toList [])) := .cons equals (reads_one rfl)
  have nameRead := reads_attributeName r tag [] (inName_of_isName name)
  have valueRead := reads_value r tag pair.1.toList [] value
  exact (((Reads.cons blank nameRead).append opened).append valueRead).append (reads_one quote)

theorem reads_attributes (r : Reader) (tag : Tag) (named : isName tag.name = true)
    {attributes : List (String × String)} (names : ∀ pair ∈ attributes, isName pair.1.toList = true)
    (distinct : ((tag.attributes ++ attributes).map Prod.fst).Nodup)
    (values : ∀ pair ∈ attributes, Admitted pair.2) :
    Reads (r.go (.tag tag)) (attributes.flatMap attributeChars)
      (r.go (.tag ⟨tag.name, tag.attributes ++ attributes⟩)) := by
  induction attributes generalizing tag with
  | nil =>
      rw [List.append_nil]
      exact reads_nil _
  | cons pair rest ih =>
      have unused : pair.1 ∉ tag.attributes.map Prod.fst := by
        intro used
        rw [List.map_append, List.map_cons] at distinct
        exact (List.nodup_append.mp distinct).2.2 _ used _ List.mem_cons_self rfl
      have first := reads_attribute r named (names pair List.mem_cons_self) unused
        (values pair List.mem_cons_self)
      have later := ih ⟨tag.name, tag.attributes ++ [pair]⟩ named
        (fun p member => names p (List.mem_cons_of_mem pair member))
        (by simpa using distinct) (fun p member => values p (List.mem_cons_of_mem pair member))
      rw [List.append_assoc] at later
      exact first.append later

/-- A start tag can stand here: in an element, or at the start of the document. -/
def Ready (r : Reader) : Prop := r.place = .content ∧ (r.stack = [] → r.pieces = [])

theorem reads_tagChars {r : Reader} (ready : r.Ready) {name : String}
    {attributes : List (String × String)} (proper : ProperTag name attributes) :
    Reads r (tagChars name attributes) (r.go (.tag ⟨name.toList, attributes⟩)) := by
  have angle : r.next? '<' = some (r.go (.tag ⟨[], []⟩)) := by
    obtain ⟨place, first⟩ := ready
    simpa [next?, place, inContent?] using first
  have nameRead := reads_tagName r [] (inName_of_isName proper.name)
  have attributesRead := reads_attributes r ⟨name.toList, []⟩ proper.name proper.names
    proper.distinct proper.values
  exact (Reads.cons angle nameRead).append attributesRead

/-! ### Content -/

/-- A text is read as what was escaped, one character after another. -/
theorem reads_text {r : Reader} (place : r.place = .content) (inside : r.stack ≠ [])
    {cs : List Char} (h : ∀ c ∈ cs, admits c = true) :
    Reads r (escape cs) (r.give (cs.map .char)) := by
  induction cs generalizing r with
  | nil =>
      simp only [List.map_nil, give, List.append_nil]
      exact reads_nil r
  | cons c cs ih =>
      have rest := ih (r := r.give [.char c]) place inside fun d member =>
        h d (List.mem_cons_of_mem c member)
      have admitted := h c List.mem_cons_self
      obtain ⟨stack, given, _⟩ := r
      obtain rfl : _ = Place.content := place
      simp only [give, List.append_assoc] at rest
      rw [escape_cons]
      refine .append ?_ rest
      generalize escapeChar c = written, escaped c = how
      obtain ⟨top, stack, rfl⟩ := List.exists_cons_of_ne_nil inside
      cases how with
      | entity listed =>
          obtain ⟨rfl, rfl⟩ | ⟨rfl, rfl⟩ | ⟨rfl, rfl⟩ | ⟨rfl, rfl⟩ := entities_cases listed <;> rfl
      | plain noMarkup =>
          apply reads_one
          simp [next?, inContent?, give, noMarkup, admitted]

/-- The end tag of the innermost element closes it. -/
theorem reads_endTag (name : String) (proper : isName name.toList = true) (stack : List String)
    (given : List Piece) :
    Reads ⟨name :: stack, given, .content⟩ ('<' :: '/' :: (name.toList ++ ['>']))
      ⟨stack, given ++ [.closing name], .content⟩ := by
  let r : Reader := ⟨name :: stack, given, .content⟩
  have close : (r.go (.ending name.toList)).next? '>' =
      some ⟨stack, given ++ [.closing name], .content⟩ := by
    simp [next?, go, inEnding?, r, inName]
  have nameRead := reads_endingName r [] (inName_of_isName proper)
  exact .cons rfl (.cons rfl (nameRead.append (reads_one close)))

mutual

/-- A tree is read piece by piece, whatever comes before and after it. A text has to be in an
    element. -/
theorem reads_chars {r : Reader} (ready : r.Ready) {x : Xml}
    (inside : r.stack = [] → ∀ s, x ≠ .text s) (proper : x.Proper) :
    Reads r x.chars (r.give x.pieces) := by
  cases x with
  | text content =>
      have opened : r.stack ≠ [] := fun empty => inside empty content rfl
      exact reads_text ready.1 opened proper
  | empty name attributes =>
      have start := reads_tagChars ready proper
      have noName : name ≠ "" := by
        rintro rfl
        cases proper.name
      have slash : (r.go (.tag ⟨name.toList, attributes⟩)).next? '/' =
          some (r.go (.slash ⟨name.toList, attributes⟩)) := by
        simp [next?, go, inTag?, inName, proper.name, noName]
      have close : (r.go (.slash ⟨name.toList, attributes⟩)).next? '>' =
          some (r.give [.opening name attributes, .closing name]) := by
        simp [next?, go, give, ready.1]
      exact start.append (.cons slash (reads_one close))
  | element name attributes content =>
      obtain ⟨tag, contentProper⟩ := proper
      let inner : Reader := ⟨name :: r.stack, r.pieces ++ [.opening name attributes], .content⟩
      have start := reads_tagChars ready tag
      have open_ : (r.go (.tag ⟨name.toList, attributes⟩)).next? '>' = some inner := by
        simp [next?, go, inTag?, inName, tag.name, inner]
      have opened : inner.stack ≠ [] := List.cons_ne_nil _ _
      have body : Reads inner (contentChars content) (inner.give (contentPieces content)) :=
        reads_contentChars ⟨rfl, fun empty => absurd empty opened⟩ opened contentProper
      have end_ := reads_endTag name tag.name r.stack (inner.give (contentPieces content)).pieces
      have whole := start.append (.cons open_ (body.append end_))
      have same :
          (⟨r.stack, (inner.give (contentPieces content)).pieces ++ [.closing name], .content⟩ :
            Reader) =
          r.give (Xml.element name attributes content).pieces := by
        simp [give, inner, Xml.pieces, ready.1]
      rw [same] at whole
      exact whole
termination_by sizeOf x

theorem reads_contentChars {r : Reader} (ready : r.Ready) (inside : r.stack ≠ []) {xs : List Xml}
    (proper : ProperContent xs) : Reads r (contentChars xs) (r.give (contentPieces xs)) := by
  cases xs with
  | nil =>
      simp only [contentPieces, give, List.append_nil]
      exact reads_nil r
  | cons x rest =>
      have first := reads_chars ready (fun empty => absurd empty inside) proper.1
      have later := reads_contentChars (r := r.give x.pieces)
        ⟨ready.1, fun empty => absurd empty inside⟩ inside
        proper.2
      have same : (r.give x.pieces).give (contentPieces rest) =
          r.give (contentPieces (x :: rest)) := by
        simp [give, contentPieces]
      rw [same] at later
      exact first.append later
termination_by sizeOf xs

end

/-- Blanks around the root are passed over. -/
theorem reads_blanks {r : Reader} (place : r.place = .content) (outside : r.stack = [])
    {cs : List Char} (blank : ∀ c ∈ cs, isBlank c = true) : Reads r cs r := by
  induction cs with
  | nil => exact reads_nil r
  | cons c cs ih =>
      have isOne := blank c List.mem_cons_self
      have noMarkup : c ≠ '<' := by
        rintro rfl
        cases isOne
      have step : r.next? c = some r := by simp [next?, place, inContent?, noMarkup, outside, isOne]
      exact .cons step (ih fun d member => blank d (List.mem_cons_of_mem c member))

end Reader

/-- An element is one document, with blanks after it or not, and is read as it is. -/
theorem read?_chars {x : Xml} (element : ∀ s, x ≠ .text s) (proper : x.Proper) (blanks : List Char)
    (blank : ∀ c ∈ blanks, isBlank c = true) :
    read? (String.ofList (x.chars ++ blanks)) = some x.pieces := by
  have tree := Reader.reads_chars (r := .new) ⟨rfl, fun _ => rfl⟩ (fun _ => element) proper
  have whole : Reader.Reads .new (x.chars ++ blanks) (Reader.new.give x.pieces) :=
    tree.append (Reader.reads_blanks rfl rfl blank)
  have first : ∃ piece rest, x.pieces = piece :: rest := by
    cases x with
    | text s => exact absurd rfl (element s)
    | empty name attributes => exact ⟨_, _, rfl⟩
    | element name attributes content => exact ⟨_, _, rfl⟩
  obtain ⟨piece, rest, pieces⟩ := first
  rw [pieces] at whole ⊢
  rw [read?, String.toList_ofList, whole]
  rfl

end LadderAtlas.Xml
