/-
JSON text has the tree of the value that it was written from.

Reading goes through the text as writing went through the value: a container calls the reader of its
parts with one step less, and has at least one character more than they have, so a step for each
character is enough.
-/
import ObjectQuery.Proofs.Json.Leaves

namespace ObjectQuery
namespace Json

mutual

/-- The tree of a value's text. -/
def tree : Json → JsonNode
  | .null => .null
  | .bool value => .bool value
  | .number value => .number (some value)
  | .string value => .string (some value)
  | .array elements => .array (treeElements elements)
  | .object members => .object (treeMembers members)

def treeElements : List Json → List JsonNode
  | [] => []
  | element :: rest => tree element :: treeElements rest

def treeMembers : List (String × Json) → List (Option String × JsonNode)
  | [] => []
  | (name, value) :: rest => (some name, tree value) :: treeMembers rest

end

mutual

/-- Whether every number is a whole number. -/
def IsWhole : Json → Prop
  | .number (.float _ _) => False
  | .array elements => AreWhole elements
  | .object members => HasWhole members
  | _ => True

def AreWhole : List Json → Prop
  | [] => True
  | element :: rest => IsWhole element ∧ AreWhole rest

def HasWhole : List (String × Json) → Prop
  | [] => True
  | (_, value) :: rest => IsWhole value ∧ HasWhole rest

end

/-! ## Written characters -/

/-- The characters of a value's text. -/
def chars (value : Json) : List Char := value.write.toList

def charsElements (elements : List Json) : List Char := (writeElements elements).toList

def charsMembers (members : List (String × Json)) : List Char := (writeMembers members).toList

theorem chars_string (s : String) :
    chars (.string s) = '"' :: (s.toList.flatMap escape ++ ['"']) := by
  rw [chars, write, writeString, String.toList_ofList, List.cons_append]

theorem chars_array (elements : List Json) :
    chars (.array elements) = '[' :: (charsElements elements ++ [']']) := by
  rw [chars, write, String.toList_append, String.toList_append]
  rfl

theorem chars_object (members : List (String × Json)) :
    chars (.object members) = '\x7b' :: (charsMembers members ++ ['\x7d']) := by
  rw [chars, write, String.toList_append, String.toList_append]
  rfl

theorem charsElements_cons (element other : Json) (rest : List Json) :
    charsElements (element :: other :: rest) =
      chars element ++ ',' :: charsElements (other :: rest) := by
  rw [charsElements, writeElements, String.toList_append, String.toList_append, List.append_assoc]
  · rfl
  · exact nofun

/-- The characters of a member. -/
def charsMember (name : String) (value : Json) : List Char :=
  '"' :: (name.toList.flatMap escape ++ '"' :: ':' :: chars value)

theorem charsMember_append (name : String) (value : Json) (rest : List Char) :
    charsMember name value ++ rest =
      '"' :: (name.toList.flatMap escape ++ '"' :: ':' :: (chars value ++ rest)) := by
  simp only [charsMember, List.cons_append, List.append_assoc]

theorem length_chars_le (name : String) (value : Json) :
    value.chars.length ≤ (charsMember name value).length := by
  simp only [charsMember, List.length_cons, List.length_append]
  omega

theorem charsMembers_singleton (name : String) (value : Json) :
    charsMembers [(name, value)] = charsMember name value := by
  rw [charsMembers, writeMembers, String.toList_append, String.toList_append, writeString,
    String.toList_ofList, charsMember]
  simp only [List.cons_append, List.append_assoc]
  rfl

theorem charsMembers_cons (name : String) (value : Json) (other : String × Json)
    (rest : List (String × Json)) :
    charsMembers ((name, value) :: other :: rest) =
      charsMember name value ++ ',' :: charsMembers (other :: rest) := by
  rw [← charsMembers_singleton, charsMembers, writeMembers, charsMembers, writeMembers]
  · simp only [String.toList_append, List.append_assoc]
    rfl
  · exact nofun

/-! ## First characters -/

/-- The characters that no value starts with: spaces, and the ends of containers. -/
def outside : List Char := [' ', '\t', '\n', '\r', ']', '\x7d']

/-- Whether a text may start a value. -/
def Opens (cs : List Char) : Prop := ∃ c ∈ cs.head?, c ∉ outside

theorem opens_cons {c : Char} {rest : List Char} (inside : c ∉ outside) : Opens (c :: rest) :=
  ⟨c, rfl, inside⟩

theorem Opens.append {cs : List Char} (opens : Opens cs) (rest : List Char) : Opens (cs ++ rest) := by
  obtain ⟨c, head, inside⟩ := opens
  exact ⟨c, by rw [Option.mem_def, List.head?_append, Option.mem_def.mp head, Option.some_or], inside⟩

theorem skipSpace_of_opens {cs : List Char} (opens : Opens cs) : JsonNode.skipSpace cs = cs := by
  obtain ⟨c, head, inside⟩ := opens
  cases cs with
  | nil => contradiction
  | cons first rest =>
    cases head
    refine List.dropWhile_cons_of_neg ?_
    simp only [outside, List.mem_cons, List.not_mem_nil, not_or] at inside
    simp [inside]

theorem not_outside_of_numeral {c : Char} (first : c = '-' ∨ c.isDigit = true) : c ∉ outside := by
  rcases first with rfl | digit
  · decide
  · intro mem
    have each : ∀ d ∈ outside, (!d.isDigit) = true := List.all_eq_true.mp (by decide)
    have other := each c mem
    rw [digit] at other
    exact nomatch other

theorem opens_chars {value : Json} (whole : value.IsWhole) : Opens value.chars := by
  cases value with
  | null => exact opens_cons (by decide)
  | bool value => cases value <;> exact opens_cons (by decide)
  | number value =>
    cases value with
    | integer i low high =>
      obtain ⟨c, rest, spelled, first⟩ := JsonNode.exists_toString_eq_cons i
      have spelled : chars (.number (.integer i low high)) = c :: rest := spelled
      rw [spelled]
      exact opens_cons (not_outside_of_numeral first)
    | float => exact whole.elim
  | string value => rw [chars_string]; exact opens_cons (by decide)
  | array elements => rw [chars_array]; exact opens_cons (by decide)
  | object members => rw [chars_object]; exact opens_cons (by decide)

theorem opens_charsElements {element : Json} (whole : element.IsWhole) (rest : List Json) :
    Opens (charsElements (element :: rest)) := by
  cases rest with
  | nil => exact opens_chars whole
  | cons other rest =>
    rw [charsElements_cons]
    exact (opens_chars whole).append _

theorem opens_charsMembers (member : String × Json) (rest : List (String × Json)) :
    Opens (charsMembers (member :: rest)) := by
  cases rest with
  | nil =>
    rw [charsMembers_singleton]
    exact opens_cons (by decide)
  | cons other rest =>
    rw [charsMembers_cons]
    exact opens_cons (by decide)

end Json

/-! ## Steps of reading -/

namespace JsonNode

open Json

section

variable {fuel : Nat} {cs between rest : List Char} {node : JsonNode}

theorem skipSpace_cons {c : Char} (solid : c ∉ [' ', '\t', '\n', '\r']) (rest : List Char) :
    skipSpace (c :: rest) = c :: rest := by
  refine List.dropWhile_cons_of_neg ?_
  simp only [List.mem_cons, List.not_mem_nil, not_or] at solid
  simp [solid]

theorem readValue_numeral {c : Char} (first : c = '-' ∨ c.isDigit = true) (fuel : Nat)
    (rest : List Char) :
    readValue (fuel + 1) (c :: rest) =
      (readNumeral (c :: rest)).map fun read => (.number read.1.toNumber?, read.2) := by
  have other {d : Char} (letter : d ≠ '-' ∧ d.isDigit = false) : c ≠ d := by
    rintro rfl
    rcases first with rfl | digit
    · exact letter.1 rfl
    · rw [letter.2] at digit
      contradiction
  rw [readValue]
  all_goals
    rintro _ ⟨⟩
    exact other (by decide) rfl

theorem readValue_array (opens : Opens cs) :
    readValue (fuel + 1) ('[' :: cs) =
      (readElements fuel cs).map fun read => (.array read.1, read.2) := by
  have started := skipSpace_of_opens opens
  obtain ⟨c, head, inside⟩ := opens
  rw [readValue, started]
  split
  · cases head
    exact absurd (by decide) inside
  · rfl

theorem readValue_object (opens : Opens cs) :
    readValue (fuel + 1) ('\x7b' :: cs) =
      (readMembers fuel cs).map fun read => (.object read.1, read.2) := by
  have started := skipSpace_of_opens opens
  obtain ⟨c, head, inside⟩ := opens
  rw [readValue, started]
  split
  · cases head
    exact absurd (by decide) inside
  · rfl

theorem readElements_last (opens : Opens cs) (read : readValue fuel cs = some (node, ']' :: rest)) :
    readElements (fuel + 1) cs = some ([node], rest) := by
  rw [readElements, skipSpace_of_opens opens, read]
  rfl

theorem readElements_more {nodes : List JsonNode} (opens : Opens cs)
    (read : readValue fuel cs = some (node, ',' :: between))
    (others : readElements fuel between = some (nodes, rest)) :
    readElements (fuel + 1) cs = some (node :: nodes, rest) := by
  rw [readElements, skipSpace_of_opens opens, read, Option.bind_eq_bind, Option.bind_some]
  simp only [skipSpace_cons (c := ',') (by decide), others, Option.bind_eq_bind, Option.bind_some]

theorem readMembers_last {name : String} (opens : Opens cs)
    (read : readValue fuel cs = some (node, '\x7d' :: rest)) :
    readMembers (fuel + 1) ('"' :: (name.toList.flatMap escape ++ '"' :: ':' :: cs)) =
      some ([(some name, node)], rest) := by
  rw [readMembers, skipSpace_cons (by decide)]
  simp only [readString_escaped, Option.bind_eq_bind, Option.bind_some, skipSpace_of_opens opens,
    read, skipSpace_cons (c := ':') (by decide)]
  rfl

theorem readMembers_more {name : String} {members : List (Option String × JsonNode)}
    (opens : Opens cs) (read : readValue fuel cs = some (node, ',' :: between))
    (others : readMembers fuel between = some (members, rest)) :
    readMembers (fuel + 1) ('"' :: (name.toList.flatMap escape ++ '"' :: ':' :: cs)) =
      some ((some name, node) :: members, rest) := by
  rw [readMembers, skipSpace_cons (by decide)]
  simp only [readString_escaped, Option.bind_eq_bind, Option.bind_some, skipSpace_of_opens opens,
    read, skipSpace_cons (c := ':') (by decide), skipSpace_cons (c := ',') (by decide), others]

end

/-! ## Whole values -/

theorem stops_cons {c : Char} (mark : c ∈ [',', ']', '\x7d']) (rest : List Char) :
    Stops (c :: rest) := by
  rintro _ ⟨⟩
  simp only [List.mem_cons, List.not_mem_nil, or_false] at mark
  rcases mark with rfl | rfl | rfl <;> decide

/-- Whether a number of steps is enough to read any value with so many characters. -/
def ReadsValues (fuel : Nat) : Prop :=
  ∀ {value : Json} {rest : List Char}, value.IsWhole → value.chars.length ≤ fuel → Stops rest →
    readValue fuel (value.chars ++ rest) = some (value.tree, rest)

def ReadsElements (fuel : Nat) : Prop :=
  ∀ {element : Json} {elements : List Json} {rest : List Char}, AreWhole (element :: elements) →
    (charsElements (element :: elements)).length < fuel →
      readElements fuel (charsElements (element :: elements) ++ ']' :: rest) =
        some (treeElements (element :: elements), rest)

def ReadsMembers (fuel : Nat) : Prop :=
  ∀ {name : String} {value : Json} {members : List (String × Json)} {rest : List Char},
    HasWhole ((name, value) :: members) →
      (charsMembers ((name, value) :: members)).length < fuel →
        readMembers fuel (charsMembers ((name, value) :: members) ++ '\x7d' :: rest) =
          some (treeMembers ((name, value) :: members), rest)

theorem readsValues_succ {fuel : Nat} (reads_elements : ReadsElements fuel)
    (reads_members : ReadsMembers fuel) : ReadsValues (fuel + 1) := by
  intro value rest whole enough stops
  cases value with
  | null => rfl
  | bool value => cases value <;> rfl
  | number value =>
    cases value with
    | integer i low high =>
      obtain ⟨c, others, spelled, first⟩ := exists_toString_eq_cons i
      obtain ⟨numeral, read, number⟩ := readNumeral_toString i low high stops
      show readValue (fuel + 1) ((toString i).toList ++ rest) = _
      rw [spelled, List.cons_append] at read ⊢
      rw [readValue_numeral first, read, Option.map_some, number]
      rfl
    | float => exact whole.elim
  | string s =>
    rw [chars_string, List.cons_append, List.append_assoc, List.singleton_append, readValue,
      readString_escaped]
    rfl
  | array elements =>
    cases elements with
    | nil => rfl
    | cons element elements =>
      have whole : AreWhole (element :: elements) := whole
      rw [chars_array, List.length_cons, List.length_append, List.length_singleton] at enough
      rw [chars_array, List.cons_append, List.append_assoc, List.singleton_append,
        readValue_array ((opens_charsElements whole.1 _).append _), reads_elements whole (by omega)]
      rfl
  | object members =>
    cases members with
    | nil => rfl
    | cons member members =>
      obtain ⟨name, value⟩ := member
      rw [chars_object, List.length_cons, List.length_append, List.length_singleton] at enough
      rw [chars_object, List.cons_append, List.append_assoc, List.singleton_append,
        readValue_object ((opens_charsMembers _ _).append _), reads_members whole (by omega)]
      rfl

theorem readsElements_succ {fuel : Nat} (reads_values : ReadsValues fuel)
    (reads_elements : ReadsElements fuel) : ReadsElements (fuel + 1) := by
  intro element elements rest whole enough
  have opens := (opens_charsElements whole.1 elements).append (']' :: rest)
  cases elements with
  | nil =>
    exact readElements_last opens
      (reads_values whole.1 (Nat.le_of_lt_succ enough) (stops_cons (by decide) _))
  | cons other elements =>
    rw [charsElements_cons, List.length_append, List.length_cons] at enough
    rw [charsElements_cons, List.append_assoc, List.cons_append] at opens ⊢
    exact readElements_more opens
      (reads_values whole.1 (by omega) (stops_cons (by decide) _))
      (reads_elements whole.2 (by omega))

theorem readsMembers_succ {fuel : Nat} (reads_values : ReadsValues fuel)
    (reads_members : ReadsMembers fuel) : ReadsMembers (fuel + 1) := by
  intro name value members rest whole enough
  have shorter := length_chars_le name value
  have opens := (opens_chars whole.1).append
  cases members with
  | nil =>
    rw [charsMembers_singleton] at enough ⊢
    rw [charsMember_append]
    exact readMembers_last (opens _)
      (reads_values whole.1 (by omega) (stops_cons (by decide) _))
  | cons next members =>
    obtain ⟨other, next⟩ := next
    rw [charsMembers_cons, List.length_append, List.length_cons] at enough
    rw [charsMembers_cons, List.append_assoc, List.cons_append, charsMember_append]
    exact readMembers_more (opens _)
      (reads_values whole.1 (by omega) (stops_cons (by decide) _))
      (reads_members whole.2 (by omega))

/-- A step for each character is enough. -/
theorem reads (fuel : Nat) : ReadsValues fuel ∧ ReadsElements fuel ∧ ReadsMembers fuel := by
  induction fuel with
  | zero =>
    refine ⟨fun {value _} whole enough _ => ?_, fun _ enough => ?_, fun _ enough => ?_⟩
    · obtain ⟨c, head, -⟩ := opens_chars whole
      rw [List.eq_nil_of_length_eq_zero (Nat.le_zero.mp enough)] at head
      contradiction
    · contradiction
    · contradiction
  | succ fuel ih =>
    obtain ⟨values, elements, members⟩ := ih
    exact ⟨readsValues_succ elements members, readsElements_succ values elements,
      readsMembers_succ values members⟩

/-- A written value is well formed, and has the tree of the value. -/
theorem read?_write {value : Json} (whole : value.IsWhole) : read? value.write = some value.tree := by
  have nothing : Stops [] := by rintro _ ⟨⟩
  have enough : value.chars.length ≤ 2 * value.write.toList.length + 2 := by
    rw [chars]
    omega
  have read := (reads _).1 whole enough nothing
  rw [List.append_nil] at read
  have started : skipSpace value.write.toList = value.chars := skipSpace_of_opens (opens_chars whole)
  simp only [read?, started, read]
  rfl

end JsonNode
end ObjectQuery
