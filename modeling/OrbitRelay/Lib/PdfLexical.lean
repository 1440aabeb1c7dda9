import Mathlib.Data.List.Infix
import Mathlib.Logic.Relation

/-! The lexical rules of PDF, as far as they say where a name token can stand: comments, literal
strings, hexadecimal strings, and everything else. -/
namespace PdfLexical

abbrev percent : UInt8 := 37
abbrev openParen : UInt8 := 40
abbrev closeParen : UInt8 := 41
abbrev slash : UInt8 := 47
abbrev lessThan : UInt8 := 60
abbrev greaterThan : UInt8 := 62
abbrev backslash : UInt8 := 92

def isWhiteSpace (byte : UInt8) : Bool :=
  byte == 0 || byte == 9 || byte == 10 || byte == 12 || byte == 13 || byte == 32

def isDelimiter (byte : UInt8) : Bool :=
  [openParen, closeParen, lessThan, greaterThan, 91, 93, 123, 125, slash, percent].contains byte

def isEndOfLine (byte : UInt8) : Bool := byte == 10 || byte == 13

/-- What a position is inside of; a literal string has its open parentheses counted. -/
inductive Mode
  | regular
  | comment
  | literal (depth : Nat)
  | hex
deriving DecidableEq

/-- How many parentheses are open. -/
def Mode.depth : Mode → Nat
  | literal depth => depth
  | _ => 0

/-- The mode after a byte, and the bytes that remain: `<<` and an escape take two. -/
def advance (mode : Mode) (byte : UInt8) (rest : List UInt8) : Mode × List UInt8 :=
  match mode with
  | .regular =>
    if byte = percent then (.comment, rest)
    else if byte = openParen then (.literal 1, rest)
    else if byte = lessThan then
      if rest.head? = some lessThan then (.regular, rest.tail) else (.hex, rest)
    else (.regular, rest)
  | .comment => if isEndOfLine byte then (.regular, rest) else (.comment, rest)
  | .literal depth =>
    if byte = backslash then (.literal depth, rest.tail)
    else if byte = openParen then (.literal (depth + 1), rest)
    else if byte = closeParen then
      if depth ≤ 1 then (.regular, rest) else (.literal (depth - 1), rest)
    else (.literal depth, rest)
  | .hex => if byte = greaterThan then (.regular, rest) else (.hex, rest)

theorem advance_length (mode : Mode) (byte : UInt8) (rest : List UInt8) :
    (advance mode byte rest).2.length ≤ rest.length := by
  unfold advance
  cases mode <;> dsimp only <;> split_ifs <;> simp

/-- The name stands here as a whole token, after its slash. -/
def startsName (name bytes : List UInt8) : Bool :=
  name.isPrefixOf bytes &&
    (bytes.drop name.length).head?.all fun byte => isWhiteSpace byte || isDelimiter byte

/-- Whether a name token stands in the rest of the input. -/
def readsName (name : List UInt8) (mode : Mode) (bytes : List UInt8) : Bool :=
  match bytes with
  | [] => false
  | byte :: rest =>
    if mode = .regular ∧ byte = slash ∧ startsName name rest = true then true
    else readsName name (advance mode byte rest).1 (advance mode byte rest).2
termination_by bytes.length
decreasing_by
  have h := advance_length mode byte rest
  simp only [List.length_cons]
  omega

/-- One step of the reading. A position is what it is inside of, and the bytes that remain. -/
inductive Reads : Mode × List UInt8 → Mode × List UInt8 → Prop
  | byte (mode : Mode) (byte : UInt8) (rest : List UInt8) :
      Reads (mode, byte :: rest) (advance mode byte rest)

/-- The reading of the input comes to this position. -/
def Passes (bytes : List UInt8) (mode : Mode) (rest : List UInt8) : Prop :=
  Relation.ReflTransGen Reads (.regular, bytes) (mode, rest)

section Positions
variable {name bytes rest rest' : List UInt8} {mode mode' : Mode} {p q : Mode × List UInt8}

theorem advance_suffix (mode : Mode) (byte : UInt8) (rest : List UInt8) :
    (advance mode byte rest).2 <:+ rest := by
  unfold advance
  cases mode <;> dsimp only <;> split_ifs <;>
    first | exact List.suffix_refl rest | exact List.tail_suffix rest

theorem Reads.suffix (h : Reads p q) : q.2 <:+ p.2 := by
  cases h with
  | byte mode byte rest => exact (advance_suffix mode byte rest).trans (List.suffix_cons byte rest)

theorem Reads.length_lt (h : Reads p q) : q.2.length < p.2.length := by
  cases h with
  | byte mode byte rest => exact Nat.lt_succ_of_le (advance_length mode byte rest)

theorem Reads.depth_le (h : Reads p q) : q.1.depth + q.2.length ≤ p.1.depth + p.2.length := by
  cases h with
  | byte mode byte rest =>
    have htail : rest.tail.length = rest.length - 1 := List.length_tail
    unfold advance
    cases mode <;> dsimp only <;> split_ifs <;>
      simp only [Mode.depth, List.length_cons, htail] <;> omega

theorem reads_rightUnique : Relator.RightUnique Reads := by
  intro p q q' h h'
  cases h
  cases h'
  rfl

theorem suffix_of_reads (h : Relation.ReflTransGen Reads p q) : q.2 <:+ p.2 := by
  induction h with
  | refl => exact List.suffix_refl _
  | tail _ hstep ih => exact hstep.suffix.trans ih

/-- Every step takes a byte, so that a position is known by its length. -/
theorem eq_of_reads (h : Relation.ReflTransGen Reads p q) (hlength : p.2.length ≤ q.2.length) :
    p = q := by
  rcases h.cases_head with heq | ⟨next, hstep, hrest⟩
  · exact heq
  · have hlt := hstep.length_lt
    have hle := (suffix_of_reads hrest).length_le
    omega

theorem passes_start (bytes : List UInt8) : Passes bytes .regular bytes := .refl

theorem Passes.step (h : Passes bytes mode rest) (hstep : Reads (mode, rest) (mode', rest')) :
    Passes bytes mode' rest' :=
  h.tail hstep

theorem Passes.advance {byte : UInt8} (h : Passes bytes mode (byte :: rest))
    (hadvance : advance mode byte rest = (mode', rest')) : Passes bytes mode' rest' :=
  h.step (hadvance ▸ .byte mode byte rest)

theorem Passes.suffix (h : Passes bytes mode rest) : rest <:+ bytes := suffix_of_reads h

/-- Every parenthesis that is open has taken a byte. -/
theorem Passes.depth_le {depth : Nat} (h : Passes bytes (.literal depth) rest) :
    depth + rest.length ≤ bytes.length := by
  have hopen (p : Mode × List UInt8)
      (h : Relation.ReflTransGen Reads (.regular, bytes) p) :
      p.1.depth + p.2.length ≤ bytes.length := by
    induction h with
    | refl => simp [Mode.depth]
    | @tail p q _ hstep ih =>
      have hle := hstep.depth_le
      omega
  exact hopen (.literal depth, rest) h

/-- Of two positions the one with fewer bytes left comes later. -/
theorem Passes.reads (h : Passes bytes mode rest) (h' : Passes bytes mode' rest')
    (hlength : rest'.length ≤ rest.length) :
    Relation.ReflTransGen Reads (mode, rest) (mode', rest') := by
  rcases Relation.ReflTransGen.total_of_right_unique reads_rightUnique h h' with hreads | hreads
  · exact hreads
  · rw [eq_of_reads hreads hlength]

theorem Passes.eq_of_length (h : Passes bytes mode rest) (h' : Passes bytes mode' rest')
    (hlength : rest.length = rest'.length) : mode = mode' ∧ rest = rest' := by
  have heq := eq_of_reads (h.reads h' hlength.ge) hlength.le
  exact ⟨congrArg Prod.fst heq, congrArg Prod.snd heq⟩

/-- No position lies within a step. -/
theorem Passes.not_between {step : Mode × List UInt8} (h : Passes bytes mode rest)
    (hstep : Reads (mode, rest) step) (h' : Passes bytes mode' rest')
    (hlength : rest'.length < rest.length) : rest'.length ≤ step.2.length := by
  rcases (h.reads h' hlength.le).cases_head with heq | ⟨next, hnext, hreads⟩
  · cases heq
    exact absurd hlength (Nat.lt_irrefl _)
  · rw [reads_rightUnique hstep hnext]
    exact (suffix_of_reads hreads).length_le

/-- A name is found where the reading passes it outside of comments and strings. -/
theorem readsName_iff : readsName name mode bytes = true ↔
    ∃ rest, Relation.ReflTransGen Reads (mode, bytes) (.regular, slash :: rest) ∧
      startsName name rest = true := by
  induction hn : bytes.length using Nat.strongRecOn generalizing mode bytes with
  | _ n ih =>
    cases bytes with
    | nil =>
      rw [readsName]
      refine ⟨nofun, ?_⟩
      rintro ⟨rest, hreads, -⟩
      have hle := (suffix_of_reads hreads).length_le
      simp at hle
    | cons byte rest =>
      rw [readsName]
      split_ifs with hfound
      · obtain ⟨rfl, rfl, hname⟩ := hfound
        exact iff_of_true rfl ⟨rest, .refl, hname⟩
      · have hlt := (Reads.byte mode byte rest).length_lt
        rw [ih _ (hn ▸ hlt) rfl]
        constructor
        · rintro ⟨found, hreads, hname⟩
          exact ⟨found, .head (.byte mode byte rest) hreads, hname⟩
        · rintro ⟨found, hreads, hname⟩
          rcases hreads.cases_head with heq | ⟨next, hstep, hreads⟩
          · cases heq
            exact absurd ⟨rfl, rfl, hname⟩ hfound
          · rw [← reads_rightUnique (Reads.byte mode byte rest) hstep] at hreads
            exact ⟨found, hreads, hname⟩

end Positions
end PdfLexical
