import Poco.TokenCursor

namespace Poco

/-! A cursor stands between the tokens it has passed and those ahead of it.  Every
call answers as this picture says and leaves the picture it should, so nothing
that a parser does with a cursor makes it lose, change or skip a token. -/

/-- A list cut at a place, the part before it from there backwards. -/
structure Zipper (α : Type) where
  passed : List α
  ahead : List α

namespace Zipper

variable {α : Type}

def cut (place : Nat) (list : List α) : Zipper α :=
  { passed := (list.take place).reverse, ahead := list.drop place }

def whole (zipper : Zipper α) : List α :=
  zipper.passed.reverse ++ zipper.ahead

def advance (zipper : Zipper α) : Zipper α :=
  match zipper.ahead with
  | [] => zipper
  | next :: rest => { passed := next :: zipper.passed, ahead := rest }

def lookAhead? (zipper : Zipper α) (distance : Nat) : Except Fault (Option α) :=
  if zipper.passed.length + distance < UInt64.size then
    .ok zipper.ahead[distance]?
  else
    .error .additionOverflow

def takeIf (zipper : Zipper α) (wanted : α → Bool) : Option α × Zipper α :=
  match zipper.ahead with
  | [] => (none, zipper)
  | next :: _ => if wanted next then (some next, zipper.advance) else (none, zipper)

def expect (zipper : Zipper Token) (wanted : Token → Bool) (expected : String) :
    Except CursorError Token × Zipper Token :=
  match zipper.ahead with
  | [] => (.error (.unexpectedEnd expected), zipper)
  | next :: _ =>
      if wanted next then (.ok next, zipper.advance)
      else (.error (.unexpectedToken expected next.sourceText next.span), zipper)

@[simp] theorem whole_cut (place : Nat) (list : List α) : (cut place list).whole = list := by
  simp [cut, whole]

@[simp] theorem length_passed_cut {place : Nat} {list : List α} (within : place ≤ list.length) :
    (cut place list).passed.length = place := by
  simp [cut, within]

/-- The place of a cut is as good as the end of the list when it lies behind it. -/
theorem cut_min (place : Nat) (list : List α) :
    cut (min place list.length) list = cut place list := by
  rcases Nat.le_total place list.length with within | beyond
  · rw [Nat.min_eq_left within]
  · rw [Nat.min_eq_right beyond, cut, cut, List.take_of_length_le beyond,
      List.drop_of_length_le beyond, List.take_length, List.drop_length]

theorem advance_cut (place : Nat) (list : List α) :
    (cut place list).advance =
      if place < list.length then cut (place + 1) list else cut place list := by
  split
  case isTrue inside =>
      have next : list.take (place + 1) = list.take place ++ [list[place]] := by
        rw [List.take_add_one, List.getElem?_eq_getElem inside, Option.toList_some]
      rw [cut, cut, advance, List.drop_eq_getElem_cons inside, next, List.reverse_append]
      rfl
  case isFalse outside =>
      simp only [advance, cut, List.drop_of_length_le (Nat.le_of_not_lt outside)]

end Zipper

namespace TokenCursor

/-- What a parser may ask of a cursor. -/
inductive Call where
  | current
  | peek
  | lookAhead (distance : Nat)
  | advance
  | takeIf (wanted : Token → Bool)
  | expectKind (kind : TokenKind)
  | expectSymbol (symbol : String)
  | bookmark
  | goTo (bookmark : Bookmark)

inductive Answer where
  | found (token : Option Token)
  | ahead (token : Except Fault (Option Token))
  | taken (token : Option Token)
  | expected (token : Except CursorError Token)
  | marked (bookmark : Bookmark)
  | moved

/-- Calls that may change the place without giving out the tokens in between. -/
def Call.strays : Call → Bool
  | .advance => true
  | .goTo _ => true
  | _ => false

def Answer.token? : Answer → Option Token
  | .taken token => token
  | .expected token => token.toOption
  | _ => none

def perform (cursor : TokenCursor) : Call → Answer × TokenCursor
  | .current => (.found cursor.current?, cursor)
  | .peek => (.ahead cursor.peek?, cursor)
  | .lookAhead distance => (.ahead (cursor.lookAhead? distance), cursor)
  | .advance => (.found cursor.advance.current?, cursor.advance)
  | .takeIf wanted => (cursor.takeIf wanted).map .taken id
  | .expectKind kind => (cursor.expectKind kind).map .expected id
  | .expectSymbol symbol => (cursor.expectSymbol symbol).map .expected id
  | .bookmark => (.marked cursor.bookmark, cursor)
  | .goTo bookmark => (.moved, cursor.goTo bookmark)

def performAll (cursor : TokenCursor) : List Call → List Answer × TokenCursor
  | [] => ([], cursor)
  | call :: later =>
      let first := cursor.perform call
      let others := first.2.performAll later
      (first.1 :: others.1, others.2)

end TokenCursor

namespace Zipper

open TokenCursor (Call Answer)

/-- What the calls mean for a list cut in two. -/
def perform (zipper : Zipper Token) : Call → Answer × Zipper Token
  | .current => (.found zipper.ahead.head?, zipper)
  | .peek => (.ahead (zipper.lookAhead? 1), zipper)
  | .lookAhead distance => (.ahead (zipper.lookAhead? distance), zipper)
  | .advance => (.found zipper.advance.ahead.head?, zipper.advance)
  | .takeIf wanted => (zipper.takeIf wanted).map .taken id
  | .expectKind kind => (zipper.expect (·.kind == kind) kind.name).map .expected id
  | .expectSymbol symbol =>
      (zipper.expect (·.isSymbol symbol) ("'" ++ symbol ++ "'")).map .expected id
  | .bookmark => (.marked { position := zipper.passed.length }, zipper)
  | .goTo bookmark => (.moved, cut bookmark.position zipper.whole)

def performAll (zipper : Zipper Token) : List Call → List Answer × Zipper Token
  | [] => ([], zipper)
  | call :: later =>
      let first := zipper.perform call
      let others := first.2.performAll later
      (first.1 :: others.1, others.2)

end Zipper

namespace TokenCursor

variable (cursor : TokenCursor)

def zipper : Zipper Token :=
  .cut cursor.position cursor.tokens.toList

/-- The cursor is not behind the end of its tokens. -/
def Within : Prop :=
  cursor.position ≤ cursor.tokens.size

theorem ahead_zipper : cursor.zipper.ahead = cursor.remaining := rfl

theorem current?_eq : cursor.current? = cursor.zipper.ahead.head? := by
  rw [current?, zipper, Zipper.cut, List.head?_drop, Array.getElem?_toList]

theorem getElem?_remaining (distance : Nat) :
    cursor.remaining[distance]? = cursor.tokens[cursor.position + distance]? := by
  rw [remaining, List.getElem?_drop, Array.getElem?_toList]

theorem zipper_advance : cursor.advance.zipper = cursor.zipper.advance := by
  rw [zipper, zipper, Zipper.advance_cut, advance, Array.length_toList]
  split <;> rfl

theorem zipper_takeIf (wanted : Token → Bool) :
    (cursor.takeIf wanted).map id zipper = cursor.zipper.takeIf wanted := by
  rw [takeIf, Zipper.takeIf, current?_eq]
  cases cursor.zipper.ahead with
  | nil => rfl
  | cons token rest =>
      cases holds : wanted token with
      | false => simp [holds]
      | true => simp [holds, zipper_advance]

theorem zipper_expect (wanted : Token → Bool) (expected : String) :
    (cursor.expect wanted expected).map id zipper = cursor.zipper.expect wanted expected := by
  rw [expect, Zipper.expect, current?_eq]
  cases cursor.zipper.ahead with
  | nil => rfl
  | cons token rest =>
      cases holds : wanted token with
      | false => simp [holds]
      | true => simp [holds, zipper_advance]

theorem zipper_goTo (bookmark : Bookmark) :
    (cursor.goTo bookmark).zipper = .cut bookmark.position cursor.zipper.whole := by
  rw [zipper, zipper, Zipper.whole_cut, goTo, ← Array.length_toList, Zipper.cut_min]

variable {cursor}

theorem length_passed (within : cursor.Within) : cursor.zipper.passed.length = cursor.position :=
  Zipper.length_passed_cut (by rwa [Array.length_toList])

theorem lookAhead?_eq (within : cursor.Within) (distance : Nat) :
    cursor.lookAhead? distance = cursor.zipper.lookAhead? distance := by
  rw [lookAhead?, Zipper.lookAhead?, length_passed within, ahead_zipper, getElem?_remaining]

/-- One call does to the cursor what it does to the zipper. -/
theorem zipper_perform (within : cursor.Within) (call : Call) :
    (cursor.perform call).map id zipper = cursor.zipper.perform call := by
  cases call with
  | current => simp [perform, Zipper.perform, current?_eq]
  | peek => simp [perform, Zipper.perform, peek?, lookAhead?_eq within]
  | lookAhead distance => simp [perform, Zipper.perform, lookAhead?_eq within]
  | advance => simp [perform, Zipper.perform, current?_eq, zipper_advance]
  | takeIf wanted => simp [perform, Zipper.perform, ← zipper_takeIf, Prod.map]
  | expectKind kind => simp [perform, Zipper.perform, expectKind, ← zipper_expect, Prod.map]
  | expectSymbol symbol => simp [perform, Zipper.perform, expectSymbol, ← zipper_expect, Prod.map]
  | bookmark => simp [perform, Zipper.perform, bookmark, length_passed within]
  | goTo bookmark => simp [perform, Zipper.perform, zipper_goTo]

/-- The tokens and the index of a cursor stay, and the cursor stays within them. -/
structure Keeps (cursor after : TokenCursor) : Prop where
  tokens : after.tokens = cursor.tokens
  index : after.index = cursor.index
  within : after.Within

theorem Keeps.refl (within : cursor.Within) : cursor.Keeps cursor :=
  ⟨rfl, rfl, within⟩

theorem Keeps.trans {between after : TokenCursor} (first : cursor.Keeps between)
    (second : between.Keeps after) : cursor.Keeps after :=
  ⟨second.tokens.trans first.tokens, second.index.trans first.index, second.within⟩

theorem keeps_advance (within : cursor.Within) : cursor.Keeps cursor.advance := by
  rw [advance]
  split
  case isTrue inside => exact ⟨rfl, rfl, inside⟩
  case isFalse => exact .refl within

theorem keeps_goTo (bookmark : Bookmark) : cursor.Keeps (cursor.goTo bookmark) :=
  ⟨rfl, rfl, Nat.min_le_right _ _⟩

/-- What it means to take the current token if it is wanted. -/
structure Takes (cursor : TokenCursor) (wanted : Token → Bool) (taken : Option Token)
    (after : TokenCursor) : Prop where
  found : ∀ token, taken = some token ↔ cursor.current? = some token ∧ wanted token = true
  moved : after =
    if taken.isSome then { cursor with position := cursor.position + 1 } else cursor

theorem advance_of_current {token : Token} (current : cursor.current? = some token) :
    cursor.advance = { cursor with position := cursor.position + 1 } := by
  obtain ⟨inside, -⟩ := Array.getElem?_eq_some_iff.mp current
  exact if_pos inside

theorem takes_some {wanted : Token → Bool} {token : Token}
    (current : cursor.current? = some token) (holds : wanted token = true) :
    cursor.Takes wanted (some token) cursor.advance where
  found other := by
    rw [current]
    constructor
    · intro same
      exact ⟨same, Option.some.inj same ▸ holds⟩
    · exact And.left
  moved := advance_of_current current

theorem takes_none {wanted : Token → Bool}
    (refused : ∀ token, cursor.current? = some token → wanted token = false) :
    cursor.Takes wanted none cursor where
  found token := by
    constructor
    · intro found
      contradiction
    · rintro ⟨current, holds⟩
      rw [refused token current] at holds
      contradiction
  moved := rfl

theorem takes_takeIf (cursor : TokenCursor) (wanted : Token → Bool) :
    cursor.Takes wanted (cursor.takeIf wanted).1 (cursor.takeIf wanted).2 := by
  rw [takeIf]
  cases current : cursor.current? with
  | none => exact takes_none (by simp [current])
  | some token =>
      cases holds : wanted token with
      | false =>
          simp only [holds, Bool.false_eq_true, if_false]
          exact takes_none (by simpa [current] using holds)
      | true =>
          simp only [holds, if_true]
          exact takes_some current holds

theorem takes_expect (cursor : TokenCursor) (wanted : Token → Bool) (expected : String) :
    cursor.Takes wanted (cursor.expect wanted expected).1.toOption
      (cursor.expect wanted expected).2 := by
  rw [expect]
  cases current : cursor.current? with
  | none => exact takes_none (by simp [current])
  | some token =>
      cases holds : wanted token with
      | false =>
          simp only [holds, Bool.false_eq_true, if_false]
          exact takes_none (by simpa [current] using holds)
      | true =>
          simp only [holds, if_true]
          exact takes_some current holds

theorem Takes.eq_advance {wanted : Token → Bool} {taken : Option Token} {after : TokenCursor}
    (takes : cursor.Takes wanted taken after) :
    after = if taken.isSome then cursor.advance else cursor := by
  rw [takes.moved]
  cases answer : taken with
  | none => rfl
  | some token => exact (advance_of_current ((takes.found token).mp answer).1).symm

theorem Takes.keeps {wanted : Token → Bool} {taken : Option Token} {after : TokenCursor}
    (takes : cursor.Takes wanted taken after) (within : cursor.Within) : cursor.Keeps after := by
  rw [takes.eq_advance]
  split
  · exact keeps_advance within
  · exact .refl within

/-- What was taken stood ahead of what remains. -/
theorem Takes.remaining {wanted : Token → Bool} {taken : Option Token} {after : TokenCursor}
    (takes : cursor.Takes wanted taken after) :
    taken.toList ++ after.remaining = cursor.remaining := by
  rw [takes.moved]
  cases answer : taken with
  | none => rfl
  | some token =>
      obtain ⟨current, -⟩ := (takes.found token).mp answer
      obtain ⟨inside, rfl⟩ := Array.getElem?_eq_some_iff.mp current
      exact (List.drop_eq_getElem_cons (by rwa [Array.length_toList])).symm

theorem keeps_perform (within : cursor.Within) (call : Call) :
    cursor.Keeps (cursor.perform call).2 := by
  cases call with
  | advance => exact keeps_advance within
  | takeIf wanted => exact (cursor.takes_takeIf wanted).keeps within
  | expectKind kind => exact (cursor.takes_expect _ _).keeps within
  | expectSymbol symbol => exact (cursor.takes_expect _ _).keeps within
  | goTo bookmark => exact keeps_goTo bookmark
  | current | peek | lookAhead _ | bookmark => exact .refl within

theorem remaining_perform (cursor : TokenCursor) {call : Call}
    (straight : call.strays = false) :
    (cursor.perform call).1.token?.toList ++ (cursor.perform call).2.remaining =
      cursor.remaining := by
  cases call with
  | takeIf wanted => exact (cursor.takes_takeIf wanted).remaining
  | expectKind kind => exact (cursor.takes_expect _ _).remaining
  | expectSymbol symbol => exact (cursor.takes_expect _ _).remaining
  | advance | goTo _ => contradiction
  | current | peek | lookAhead _ | bookmark => rfl

theorem keeps_performAll (within : cursor.Within) (calls : List Call) :
    cursor.Keeps (cursor.performAll calls).2 := by
  induction calls generalizing cursor with
  | nil => exact .refl within
  | cons call later ih =>
      have first := keeps_perform within call
      exact first.trans (ih first.within)

theorem zipper_performAll (within : cursor.Within) (calls : List Call) :
    (cursor.performAll calls).map id zipper = cursor.zipper.performAll calls := by
  induction calls generalizing cursor with
  | nil => rfl
  | cons call later ih =>
      have first := zipper_perform within call
      have others := ih (keeps_perform within call).within
      rw [performAll, Zipper.performAll, ← first]
      simp only [Prod.map_snd, Prod.map_fst, ← others, id_eq, Prod.map_apply]

theorem remaining_performAll (cursor : TokenCursor) {calls : List Call}
    (straight : ∀ call ∈ calls, call.strays = false) :
    (cursor.performAll calls).1.filterMap Answer.token? ++
      (cursor.performAll calls).2.remaining = cursor.remaining := by
  induction calls generalizing cursor with
  | nil => rfl
  | cons call later ih =>
      have first := cursor.remaining_perform (straight call (List.mem_cons_self ..))
      have others := ih (cursor.perform call).2
        fun call member => straight call (List.mem_cons_of_mem _ member)
      have answers (answer : Answer) (later : List Answer) :
          (answer :: later).filterMap Answer.token? =
            answer.token?.toList ++ later.filterMap Answer.token? := by
        cases token : answer.token? <;> simp [token]
      rw [performAll, answers, List.append_assoc, others, first]

/-- A bookmark brings a cursor back to where it was set. -/
theorem goTo_bookmark {after : TokenCursor} (within : cursor.Within) (keeps : cursor.Keeps after) :
    after.goTo cursor.bookmark = cursor := by
  rw [goTo, bookmark, keeps.tokens, Nat.min_eq_left within]
  obtain ⟨list, place, index⟩ := after
  obtain ⟨rfl, rfl, -⟩ := keeps
  rfl

/-- How a cursor over `tokens` behaves, wherever calls have brought it. -/
structure Obeys (cursor : TokenCursor) (tokens : Array Token) : Prop where
  same : cursor.tokens = tokens
  within : cursor.position ≤ tokens.size
  remaining : cursor.remaining = tokens.toList.drop cursor.position
  ahead : ∀ distance, cursor.position + distance < UInt64.size →
    cursor.lookAhead? distance = .ok cursor.remaining[distance]?
  takeIf : ∀ wanted, cursor.Takes wanted (cursor.takeIf wanted).1 (cursor.takeIf wanted).2
  expectKind : ∀ kind, cursor.Takes (·.kind == kind) (cursor.expectKind kind).1.toOption
    (cursor.expectKind kind).2
  expectSymbol : ∀ symbol, cursor.Takes (·.isSymbol symbol)
    (cursor.expectSymbol symbol).1.toOption (cursor.expectSymbol symbol).2
  /-- A bookmark set here leads back here, whatever is done in between. -/
  returns : ∀ calls, (cursor.performAll calls).2.goTo cursor.bookmark = cursor
  /-- What is taken from here on, and then what remains, is what remains now. -/
  consumes : ∀ calls, (∀ call ∈ calls, call.strays = false) →
    (cursor.performAll calls).1.filterMap Answer.token? ++
      (cursor.performAll calls).2.remaining = cursor.remaining

theorem obeys_of_within (within : cursor.Within) : cursor.Obeys cursor.tokens where
  same := rfl
  within := within
  remaining := rfl
  ahead distance fits := by
    rw [lookAhead?_eq within, Zipper.lookAhead?, length_passed within, if_pos fits, ahead_zipper]
  takeIf := cursor.takes_takeIf
  expectKind _ := cursor.takes_expect _ _
  expectSymbol _ := cursor.takes_expect _ _
  returns calls := goTo_bookmark within (keeps_performAll within calls)
  consumes _ := cursor.remaining_performAll

end TokenCursor

theorem cursor_refines_zipper (tokens : Array Token) (index : Option LineIndex)
    (calls : List TokenCursor.Call) :
    let run := TokenCursor.performAll { tokens, index } calls
    run.map id TokenCursor.zipper = (Zipper.cut 0 tokens.toList).performAll calls ∧
      run.2.Obeys tokens ∧
      ((∀ call ∈ calls, call.strays = false) →
        run.1.filterMap TokenCursor.Answer.token? ++ run.2.remaining = tokens.toList) := by
  intro run
  let start : TokenCursor := { tokens, index }
  have within : start.Within := Nat.zero_le _
  have keeps := TokenCursor.keeps_performAll within calls
  refine ⟨TokenCursor.zipper_performAll within calls, ?_, start.remaining_performAll⟩
  have obeys := TokenCursor.obeys_of_within keeps.within
  rwa [keeps.tokens] at obeys

theorem cursor_refines_zipper_straight :
    let tokens : Array Token :=
      #[{ kind := .statement, value := "let", span := { start := .start, stop := .start } },
        { kind := .symbol, value := ">=", span := { start := .start, stop := .start } }]
    let calls : List TokenCursor.Call :=
      [.expectKind .symbol, .takeIf (·.value == "let"), .lookAhead 7, .expectSymbol "=",
        .expectSymbol ">=", .peek, .expectKind .number, .bookmark]
    let run := TokenCursor.performAll { tokens } calls
    (∀ call ∈ calls, call.strays = false) ∧
      run.map id TokenCursor.zipper = (Zipper.cut 0 tokens.toList).performAll calls ∧
      run.2.Obeys tokens ∧
      run.1.filterMap TokenCursor.Answer.token? ++ run.2.remaining = tokens.toList := by
  intro tokens calls run
  have straight : ∀ call ∈ calls, call.strays = false := by decide
  obtain ⟨refines, obeys, consumes⟩ := cursor_refines_zipper tokens none calls
  exact ⟨straight, refines, obeys, consumes straight⟩

end Poco
