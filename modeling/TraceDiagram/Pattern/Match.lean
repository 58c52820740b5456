import TraceDiagram.Pattern.Node

/-! # Matching

The ways in which a pattern matches at a place, best first, and the search for the leftmost match.

A pattern is read as a function from a state (a place in the text and the groups matched so far) to the
list of states in which it can end, in order of preference. Whether the rest of a pattern matches depends
only on the place, so of several states at one place only the best is kept. That bounds every list by the
length of the text.

* **`Cursor`**, **`State`** a place in a text; with the groups matched so far.
* **`distinct`** keeps the best state of each place.
* **`Node.results`** the states in which a pattern can end.
* **`firstMatch`** the best match at the leftmost place that has one.
-/

namespace TraceDiagram.Pattern

/-- A place in a text: the character before it, the text after it, and how far it is from the start. -/
structure Cursor where
  /-- The character before the place. -/
  before : Option Char
  /-- The text after the place. -/
  rest : List Char
  /-- How many characters stand before the place. -/
  offset : Nat
  deriving DecidableEq, Repr

/-- The start of a text. -/
def Cursor.start (text : List Char) : Cursor := ⟨none, text, 0⟩

/-- A stretch of text: what follows its start, and its length. -/
structure Extent where
  /-- The text from the start of the stretch on. -/
  source : List Char
  /-- The number of characters. -/
  length : Nat
  deriving DecidableEq, Repr

/-- The characters of a stretch. -/
def Extent.text (e : Extent) : List Char := e.source.take e.length

/-- A place in a text and the groups matched on the way, the latest first. -/
structure State where
  /-- The place. -/
  cursor : Cursor
  /-- The groups, each with the stretch it matched last. -/
  groups : List (Nat × Extent)
  deriving DecidableEq, Repr

/-- The distance of a state's place from the start of the text. -/
def State.offset (s : State) : Nat := s.cursor.offset

/-! ## Sets of places -/

/-- A set of places, one bit for each offset. -/
structure Places where
  /-- The bits. -/
  bits : Nat

/-- The empty set of places. -/
def Places.none : Places := ⟨0⟩

/-- Whether a place is in the set. -/
def Places.mem (p : Places) (offset : Nat) : Bool := p.bits.testBit offset

/-- The set with a place added. -/
def Places.add (p : Places) (offset : Nat) : Places := ⟨p.bits ||| (1 <<< offset)⟩

@[simp] theorem Places.mem_none (i : Nat) : Places.none.mem i = false := by
  simp [Places.mem, Places.none]

@[simp] theorem Places.mem_add (p : Places) (i j : Nat) :
    (p.add i).mem j = (p.mem j || decide (j = i)) := by
  simp only [Places.mem, Places.add, Nat.testBit_or, Nat.testBit_shiftLeft]
  by_cases h : j = i
  · subst h; simp
  · by_cases hge : i ≤ j
    · have : Nat.testBit 1 (j - i) = false := by
        rw [Bool.eq_false_iff]
        intro hb
        have := Nat.testBit_one_eq_true_iff_self_eq_zero.1 hb
        omega
      simp [this, h]
    · simp [hge, h]

/-- The states whose place is not in `seen` and is not that of an earlier state. -/
def distinctFrom (seen : Places) : List State → List State
  | [] => []
  | s :: rest =>
    if seen.mem s.offset then distinctFrom seen rest
    else s :: distinctFrom (seen.add s.offset) rest

/-- The best state of each place. -/
def distinct (states : List State) : List State := distinctFrom .none states

@[simp] theorem distinct_nil : distinct [] = [] := rfl

@[simp] theorem head?_distinct (states : List State) : (distinct states).head? = states.head? := by
  cases states <;> simp [distinct, distinctFrom]

/-! ## Repetition -/

/-- The states after 0, 1, 2 … characters of `set`, as long as the count stays within `most`, less those
after fewer than `least`. -/
def spanFrom (set : CharSet) (groups : List (Nat × Extent)) :
    Nat → Option Nat → Option Char → Nat → List Char → List State
  | least, _, before, offset, [] =>
    if least = 0 then [⟨⟨before, [], offset⟩, groups⟩] else []
  | least, most, before, offset, c :: cs =>
    let further :=
      if most ≠ some 0 ∧ set.mem c then
        spanFrom set groups (least - 1) (most.map (· - 1)) (some c) (offset + 1) cs
      else []
    if least = 0 then ⟨⟨before, c :: cs, offset⟩, groups⟩ :: further else further

/-- The states after a run of characters of `set`. -/
def spanResults (set : CharSet) (least : Nat) (most : Option Nat) (greedy : Bool) (s : State) :
    List State :=
  let states := spanFrom set s.groups least most s.cursor.before s.cursor.offset s.cursor.rest
  if greedy then states.reverse else states

/-- Visits some states in turn, with a set of places that grows on the way. -/
def visitAll (visit : State → Places → List State × Places) :
    List State → Places → List State × Places
  | [], seen => ([], seen)
  | s :: rest, seen =>
    let first := visit s seen
    let others := visitAll visit rest first.2
    (first.1 ++ others.1, others.2)

/-- The states in which a repetition can end that has come to `s`, by stopping there or by going on with
`step`. A place that has been visited is not visited again, and at `home`, where the repetition began, a
further round would begin where the first one did and is not tried. `depth` bounds the rounds. -/
def visitRounds (step : State → List State) (greedy : Bool) (home : Nat) :
    Nat → State → Places → List State × Places
  | 0, _, seen => ([], seen)
  | depth + 1, s, seen =>
    if seen.mem s.offset then ([], seen)
    else if s.offset = home then ([s], seen.add s.offset)
    else
      let onward := visitAll (visitRounds step greedy home depth) (step s) (seen.add s.offset)
      (if greedy then onward.1 ++ [s] else s :: onward.1, onward.2)

/-- The states after one or more rounds of `step`. -/
def someRounds (step : State → List State) (greedy : Bool) (s : State) : List State :=
  (visitAll (visitRounds step greedy s.offset (s.cursor.rest.length + 2)) (step s) .none).1

/-- The states after at most `count` rounds of `step`. -/
def upToRounds (step : State → List State) (greedy : Bool) : Nat → State → List State
  | 0, s => [s]
  | count + 1, s =>
    let onward := distinct ((step s).flatMap (upToRounds step greedy count))
    distinct (if greedy then onward ++ [s] else s :: onward)

/-- The states after exactly `count` rounds of `step`, from each of some states. -/
def exactRounds (step : State → List State) : Nat → List State → List State
  | 0, states => states
  | count + 1, states => exactRounds step count (distinct (states.flatMap step))

/-- The states after at least `least` and at most `most` rounds of `step`. -/
def loopResults (step : State → List State) (greedy : Bool) (least : Nat) (most : Option Nat)
    (s : State) : List State :=
  match least, most with
  | 0, none =>
    distinct (if greedy then someRounds step greedy s ++ [s] else s :: someRounds step greedy s)
  | count + 1, none => distinct ((exactRounds step count [s]).flatMap (someRounds step greedy))
  | least, some most =>
    distinct ((exactRounds step least [s]).flatMap (upToRounds step greedy (most - least)))

/-! ## Patterns -/

/-- The states after one character of `set`. -/
def oneResult (set : CharSet) (s : State) : List State :=
  match s.cursor.rest with
  | [] => []
  | c :: cs => if set.mem c then [⟨⟨some c, cs, s.cursor.offset + 1⟩, s.groups⟩] else []

/-- Remembers the text between two states as the match of group `index`. -/
def State.remember (start : State) (index : Nat) (finish : State) : State :=
  { finish with
    groups := (index, ⟨start.cursor.rest, finish.offset - start.offset⟩) :: finish.groups }

/-- The states in which a pattern that begins at a state can end, the preferred ones first. -/
def Node.results : Node → State → List State
  | .empty, s => [s]
  | .one set, s => oneResult set s
  | .check a, s => if a.holds s.cursor.before s.cursor.rest.head? then [s] else []
  | .group index body, s => (body.results s).map (s.remember index)
  | .seq first second, s => distinct ((first.results s).flatMap second.results)
  | .alt first second, s => distinct (first.results s ++ second.results s)
  | .span set least most greedy, s => spanResults set least most greedy s
  | .loop body least most greedy, s => loopResults body.results greedy least most s

/-- The best match at the leftmost place, from a given place on, that has one. -/
def searchFrom (node : Node) : Option Char → Nat → List Char → Option State
  | before, offset, [] => (node.results ⟨⟨before, [], offset⟩, []⟩).head?
  | before, offset, c :: cs =>
    match (node.results ⟨⟨before, c :: cs, offset⟩, []⟩).head? with
    | some s => some s
    | none => searchFrom node (some c) (offset + 1) cs

/-- The best match at the leftmost place of a text that has one. -/
def firstMatch (node : Node) (text : List Char) : Option State := searchFrom node none 0 text

end TraceDiagram.Pattern
