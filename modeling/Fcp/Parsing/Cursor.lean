import Mathlib.Data.List.Basic

/-!
# Cursors over token sequences and the grammars they read

A cursor is a position inside a fixed token sequence.  A parser moves the
cursor forward or fails, and a grammar relates each parsed value to the tokens
that spell it.  A parser recognises a grammar when its successful runs are
exactly the prefixes of the remaining input that the grammar assigns to the
returned value.  The composition rules below let the grammar of a whole parser
be read off from the grammars of its steps.
-/

namespace Fcp
namespace Parsing

universe u v w

/-- A position inside a token sequence. -/
structure Cursor (τ : Type u) where
  /-- The complete sequence being read. -/
  wire : List τ
  /-- Number of tokens already read. -/
  offset : Nat
  /-- The position never leaves the sequence. -/
  offset_le : offset ≤ wire.length

namespace Cursor

variable {τ : Type u}

/-- The cursor in front of the first token. -/
def start (wire : List τ) : Cursor τ where
  wire := wire
  offset := 0
  offset_le := Nat.zero_le _

/-- Tokens that have not been read yet. -/
def rest (cursor : Cursor τ) : List τ :=
  cursor.wire.drop cursor.offset

@[simp] theorem wire_start (wire : List τ) : (start wire).wire = wire := rfl

@[simp] theorem offset_start (wire : List τ) : (start wire).offset = 0 := rfl

@[simp] theorem rest_start (wire : List τ) : (start wire).rest = wire := rfl

theorem length_rest (cursor : Cursor τ) :
    cursor.rest.length = cursor.wire.length - cursor.offset := by
  simp [rest]

/-- Read up to an absolute end position, unless it lies outside the sequence. -/
def readTo? (cursor : Cursor τ) (stop : Nat) : Option (List τ × Cursor τ) :=
  if bounds : cursor.offset ≤ stop ∧ stop ≤ cursor.wire.length then
    some (cursor.rest.take (stop - cursor.offset),
      { wire := cursor.wire, offset := stop, offset_le := bounds.2 })
  else
    none

/-- `later` is reached from `cursor` by reading exactly `tokens`. -/
def Advances (cursor : Cursor τ) (tokens : List τ) (later : Cursor τ) : Prop :=
  later.wire = cursor.wire ∧
    later.offset = cursor.offset + tokens.length ∧
    cursor.rest = tokens ++ later.rest

theorem advances_nil_iff (cursor later : Cursor τ) :
    cursor.Advances [] later ↔ later = cursor := by
  constructor
  · rintro ⟨sameWire, sameOffset, -⟩
    cases later
    cases cursor
    simp_all
  · rintro rfl
    simp [Advances]

theorem Advances.trans
    {first second third : Cursor τ}
    {left right : List τ}
    (leftRead : first.Advances left second)
    (rightRead : second.Advances right third) :
    first.Advances (left ++ right) third := by
  obtain ⟨leftWire, leftOffset, leftRest⟩ := leftRead
  obtain ⟨rightWire, rightOffset, rightRest⟩ := rightRead
  refine ⟨rightWire.trans leftWire, ?_, ?_⟩
  · simp only [List.length_append]
    omega
  · rw [leftRest, rightRest, List.append_assoc]

/-- A read of two adjacent blocks stops between them. -/
theorem Advances.split
    {first third : Cursor τ}
    {left right : List τ}
    (read : first.Advances (left ++ right) third) :
    ∃ second, first.Advances left second ∧ second.Advances right third := by
  obtain ⟨sameWire, offset, rest_eq⟩ := read
  have bounded := congrArg List.length rest_eq
  simp only [length_rest, List.length_append] at bounded offset
  have firstBound := first.offset_le
  have thirdBound := third.offset_le
  rw [sameWire] at thirdBound
  have secondBound : first.offset + left.length ≤ first.wire.length := by
    omega
  let second : Cursor τ :=
    { wire := first.wire
      offset := first.offset + left.length
      offset_le := secondBound }
  have secondRest : second.rest = right ++ third.rest := by
    change first.wire.drop (first.offset + left.length) = right ++ third.rest
    rw [← List.drop_drop]
    change first.rest.drop left.length = right ++ third.rest
    rw [rest_eq, List.append_assoc, List.drop_left]
  refine ⟨second, ⟨rfl, rfl, ?_⟩, ⟨sameWire, ?_, secondRest⟩⟩
  · rw [rest_eq, secondRest, List.append_assoc]
  · change third.offset = first.offset + left.length + right.length
    omega

/-- A bounded read returns the next tokens and moves the cursor behind them. -/
theorem readTo?_eq_some_iff
    (cursor later : Cursor τ)
    (count : Nat)
    (tokens : List τ) :
    cursor.readTo? (cursor.offset + count) = some (tokens, later) ↔
      tokens.length = count ∧ cursor.Advances tokens later := by
  unfold readTo?
  constructor
  · intro read
    split at read
    case isFalse outside => simp at read
    case isTrue bounds =>
      simp only [Nat.add_sub_cancel_left, Option.some.injEq, Prod.mk.injEq] at read
      obtain ⟨rfl, rfl⟩ := read
      have length : (cursor.rest.take count).length = count := by
        rw [List.length_take, length_rest]
        omega
      refine ⟨length, rfl, by simp only [length], ?_⟩
      change cursor.rest = _ ++ cursor.wire.drop (cursor.offset + count)
      rw [← List.drop_drop]
      exact (List.take_append_drop count cursor.rest).symm
  · rintro ⟨rfl, sameWire, offset, rest_eq⟩
    have laterBound := later.offset_le
    rw [sameWire, offset] at laterBound
    rw [dif_pos ⟨Nat.le_add_right _ _, laterBound⟩]
    simp only [Nat.add_sub_cancel_left, Option.some.injEq, Prod.mk.injEq]
    refine ⟨by rw [rest_eq, List.take_left], ?_⟩
    cases later
    simp_all

theorem advances_start_iff (wire tokens : List τ) (later : Cursor τ) :
    (start wire).Advances tokens later ↔
      later.wire = wire ∧ later.offset = tokens.length ∧
        wire = tokens ++ later.rest := by
  simp [Advances]

/-- A read that leaves no token behind has read the whole sequence. -/
theorem exists_advances_start_at_end_iff (wire tokens : List τ) :
    (∃ later, (start wire).Advances tokens later ∧
      later.offset = later.wire.length) ↔ wire = tokens := by
  constructor
  · rintro ⟨later, read, atEnd⟩
    obtain ⟨-, -, rest_eq⟩ := (advances_start_iff wire tokens later).mp read
    rw [rest_eq, rest, atEnd, List.drop_length, List.append_nil]
  · rintro rfl
    refine ⟨⟨wire, wire.length, Nat.le_refl _⟩, ?_, rfl⟩
    rw [advances_start_iff]
    simp [rest]

end Cursor

/-- A parser over tokens `τ`: it moves a cursor or fails with an error. -/
abbrev Parser (τ : Type u) (ε : Type v) (α : Type u) : Type (max u v) :=
  StateT (Cursor τ) (Except ε) α

/-- The token strings that spell each value. -/
abbrev Grammar (τ : Type u) (α : Type w) : Type (max u w) :=
  α → List τ → Prop

namespace Grammar

variable {τ : Type u} {α : Type v} {β : Type w}

/-- The grammar of a value that takes no tokens and satisfies a condition. -/
def silent (accepted : α → Prop) : Grammar τ α :=
  fun value tokens => accepted value ∧ tokens = []

/-- Sequential composition; the second grammar may depend on the first value. -/
def andThen (first : Grammar τ α) (next : α → Grammar τ β) : Grammar τ β :=
  fun value tokens => ∃ prior left right,
    first prior left ∧ next prior value right ∧ tokens = left ++ right

end Grammar

section Recognition

variable {τ : Type u} {ε : Type v} {α β : Type u}

/-- On admissible sequences the successful runs of `parser` are exactly the
reads that `grammar` allows. -/
def Recognises
    (admissible : List τ → Prop)
    (parser : Parser τ ε α)
    (grammar : Grammar τ α) : Prop :=
  ∀ cursor value later, admissible cursor.wire →
    (parser cursor = .ok (value, later) ↔
      ∃ tokens, grammar value tokens ∧ cursor.Advances tokens later)

variable {admissible : List τ → Prop}

/-- A computation that does not look at the cursor reads nothing. -/
theorem Recognises.lift (result : Except ε α) :
    Recognises admissible (liftM result : Parser τ ε α)
      (Grammar.silent (result = .ok ·)) := by
  intro cursor value later _
  have unfolded : (liftM result : Parser τ ε α) cursor =
      (result >>= fun value => .ok (value, cursor)) := rfl
  rw [unfolded]
  cases result with
  | error error => simp [Bind.bind, Except.bind, Grammar.silent]
  | ok result =>
      simp only [Bind.bind, Except.bind, Except.ok.injEq, Prod.mk.injEq,
        Grammar.silent]
      constructor
      · rintro ⟨rfl, rfl⟩
        exact ⟨[], ⟨rfl, rfl⟩, (Cursor.advances_nil_iff _ _).mpr rfl⟩
      · rintro ⟨tokens, ⟨rfl, rfl⟩, read⟩
        exact ⟨rfl, ((Cursor.advances_nil_iff _ _).mp read).symm⟩

/-- Returning a value reads nothing. -/
theorem Recognises.pure (result : α) :
    Recognises admissible (pure result : Parser τ ε α)
      (Grammar.silent (result = ·)) := by
  have lifted : Recognises admissible (liftM (.ok result : Except ε α))
      (Grammar.silent (.ok result = Except.ok ·)) :=
    Recognises.lift _
  simp only [Except.ok.injEq] at lifted
  exact lifted

/-- A sequence of parsers recognises the composed grammar. -/
theorem Recognises.bind
    {parser : Parser τ ε α}
    {next : α → Parser τ ε β}
    {first : Grammar τ α}
    {second : α → Grammar τ β}
    (parserSpec : Recognises admissible parser first)
    (nextSpec : ∀ value, Recognises admissible (next value) (second value)) :
    Recognises admissible (parser >>= next) (first.andThen second) := by
  intro cursor value later allowed
  have unfolded : (parser >>= next) cursor =
      (parser cursor >>= fun result => next result.1 result.2) := rfl
  rw [unfolded]
  constructor
  · intro run
    cases firstRun : parser cursor with
    | error error =>
        rw [firstRun] at run
        simp [Bind.bind, Except.bind] at run
    | ok result =>
        obtain ⟨prior, middle⟩ := result
        rw [firstRun] at run
        obtain ⟨left, leftSpelled, leftRead⟩ :=
          (parserSpec cursor prior middle allowed).mp firstRun
        have middleAllowed : admissible middle.wire := by
          rw [leftRead.1]
          exact allowed
        obtain ⟨right, rightSpelled, rightRead⟩ :=
          (nextSpec prior middle value later middleAllowed).mp run
        exact ⟨left ++ right,
          ⟨prior, left, right, leftSpelled, rightSpelled, rfl⟩,
          leftRead.trans rightRead⟩
  · rintro ⟨tokens, ⟨prior, left, right, leftSpelled, rightSpelled, rfl⟩, read⟩
    obtain ⟨middle, leftRead, rightRead⟩ := read.split
    have firstRun := (parserSpec cursor prior middle allowed).mpr
      ⟨left, leftSpelled, leftRead⟩
    have middleAllowed : admissible middle.wire := by
      rw [leftRead.1]
      exact allowed
    rw [firstRun]
    exact (nextSpec prior middle value later middleAllowed).mpr
      ⟨right, rightSpelled, rightRead⟩

/-- Recognition only depends on which spellings the grammar allows. -/
theorem Recognises.congr
    {parser : Parser τ ε α}
    {first second : Grammar τ α}
    (parserSpec : Recognises admissible parser first)
    (same : ∀ value tokens, first value tokens ↔ second value tokens) :
    Recognises admissible parser second := by
  intro cursor value later allowed
  rw [parserSpec cursor value later allowed]
  simp only [same]

/-- No run of a parser reports the given error. -/
def NeverFailsWith (parser : Parser τ ε α) (error : ε) : Prop :=
  ∀ cursor, parser cursor ≠ .error error

theorem NeverFailsWith.lift
    {result : Except ε α}
    {error : ε}
    (avoided : result ≠ .error error) :
    NeverFailsWith (liftM result : Parser τ ε α) error := by
  intro cursor
  have unfolded : (liftM result : Parser τ ε α) cursor =
      (result >>= fun value => .ok (value, cursor)) := rfl
  rw [unfolded]
  cases result with
  | error failure => simpa [Bind.bind, Except.bind] using avoided
  | ok value => simp [Bind.bind, Except.bind]

theorem NeverFailsWith.pure (value : α) (error : ε) :
    NeverFailsWith (pure value : Parser τ ε α) error := by
  intro cursor failed
  cases failed

theorem NeverFailsWith.bind
    {parser : Parser τ ε α}
    {next : α → Parser τ ε β}
    {error : ε}
    (first : NeverFailsWith parser error)
    (second : ∀ value, NeverFailsWith (next value) error) :
    NeverFailsWith (parser >>= next) error := by
  intro cursor
  have unfolded : (parser >>= next) cursor =
      (parser cursor >>= fun result => next result.1 result.2) := rfl
  rw [unfolded]
  cases run : parser cursor with
  | error failure =>
      have avoided := first cursor
      rw [run] at avoided
      simpa [Bind.bind, Except.bind] using avoided
  | ok result => exact second result.1 result.2

end Recognition

end Parsing
end Fcp
