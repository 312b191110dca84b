import ZyxtLexer.Token.Basic

/-! The spellings with a kind of their own. A word is classified as a whole: `+=` is one spelling
and not a `+` before a `=`. Comments, flags, labels and the ends of statements are not among the
kinds that words of code can have. -/
namespace ZyxtLexer

namespace Vocabulary

def assignmentOperators : List String :=
  ["=", "+=", "-=", "*=", "/=", "/f=", "/c=", "/~=", "%=", "b&=", "b|=", "b^=", "b<<=", "b>>=",
    "b>>>="]

def arithmeticOrBitwiseOperators : List String :=
  ["+", "-", "*", "/", "/f", "/c", "/~", "%", "rt", "lg", "b&", "b|", "b^", "b<<", "b>>", "b>>>"]

def relationalOperators : List String :=
  ["==", ">", "<", ">=", "<=", "!=", "===", "!==", "is", "isnt"]

def logicalOperators : List String := ["&&", "||", "^^"]

def concatOperators : List String := [".."]

def swapOperators : List String := ["><"]

def typeOperators : List String := ["istype", "isnttype"]

def literals : List String := ["null", "true", "false"]

/-- The spellings by kind, in the order in which they are consulted. -/
def tables : List (Kind × List String) :=
  [(.assignmentOperator, assignmentOperators),
    (.arithmeticOrBitwiseOperator, arithmeticOrBitwiseOperators),
    (.relationalOperator, relationalOperators),
    (.logicalOperator, logicalOperators),
    (.concatOperator, concatOperators),
    (.swapOperator, swapOperators),
    (.typeOperator, typeOperators),
    (.literal, literals)]

def entries : List (String × Kind) :=
  tables.flatMap fun t => t.2.map fun spelling => (spelling, t.1)

def classify (word : String) : Option Kind := entries.lookup word

end Vocabulary

/-- The kind of a word in code: a word without an entry names a variable. -/
def wordKind (word : String) : Kind := (Vocabulary.classify word).getD .variableName

def Vocabulary.kinds : List Kind := tables.map Prod.fst ++ [.variableName]

theorem Vocabulary.classify_mem {word : String} {k : Kind} (h : classify word = some k) :
    k ∈ tables.map Prod.fst := by
  obtain ⟨xs, ys, hxy, -⟩ := List.lookup_eq_some_iff.1 h
  have hmem : (word, k) ∈ entries := hxy ▸ List.mem_append_right xs List.mem_cons_self
  obtain ⟨t, ht, hk⟩ := List.mem_flatMap.1 hmem
  obtain ⟨s, -, he⟩ := List.mem_map.1 hk
  rw [Prod.mk.injEq] at he
  exact he.2 ▸ List.mem_map_of_mem ht

theorem wordKind_mem (word : String) : wordKind word ∈ Vocabulary.kinds := by
  cases h : Vocabulary.classify word with
  | none =>
    rw [wordKind, h]
    exact List.mem_append_right _ List.mem_cons_self
  | some k =>
    rw [wordKind, h]
    exact List.mem_append_left _ (Vocabulary.classify_mem h)

theorem wordKind_ne_statementEnd (word : String) : wordKind word ≠ .statementEnd := fun h =>
  absurd (h ▸ wordKind_mem word) (by decide)

theorem wordKind_ne_flag (word : String) : wordKind word ≠ .flag := fun h =>
  absurd (h ▸ wordKind_mem word) (by decide)

end ZyxtLexer
