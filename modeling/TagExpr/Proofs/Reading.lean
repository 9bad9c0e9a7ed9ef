/-
TagExpr/Proofs/Reading.lean

Reading template syntax back.

`Expr.read` goes through a text character by character, with a stack of the calls that are
open.  A call on the stack is the expression that the next argument is given to: its head and
the arguments bound so far.  Three facts make the syntax unambiguous:

* a comma binds the argument before it, and the closing parenthesis applies the last one;
* dots after a comma end a chain that is never applied, for no argument begins with two dots;
* a chain that is still open is no head of another call.

A printed expression is therefore read back without its spans (`read_print`).  Conversely each
character that is read is one more character of the text that the state stands for
(`spelled_step`), so what is read prints the text it was read from (`plain_of_read`).

Main result: with proper names

    d.print = e.print   iff   d and e are the same tree up to spans.
-/
import TagExpr.Expr.Print

namespace TagExpr

/-! ### Characters -/

/-- What a character can be in template syntax. -/
inductive Sign where
  | dot
  | opened
  | closed
  | comma
  /-- Part of a name. -/
  | letter
  deriving DecidableEq

/-- The sign that a character is. -/
def Sign.of (c : Char) : Sign :=
  if c = '.' then .dot
  else if c = '(' then .opened
  else if c = ')' then .closed
  else if c = ',' then .comma
  else .letter

@[simp] theorem Sign.of_dot : Sign.of '.' = .dot := rfl
@[simp] theorem Sign.of_opened : Sign.of '(' = .opened := rfl
@[simp] theorem Sign.of_closed : Sign.of ')' = .closed := rfl
@[simp] theorem Sign.of_comma : Sign.of ',' = .comma := rfl
@[simp] theorem Sign.of_blank : Sign.of ' ' = .letter := rfl

theorem Sign.of_eq_letter_iff {c : Char} :
    Sign.of c = .letter ↔ c ≠ '.' ∧ c ≠ '(' ∧ c ≠ ')' ∧ c ≠ ',' := by
  unfold Sign.of
  repeat' split
  all_goals simp_all

theorem Sign.eq_of_of {c : Char} :
    (Sign.of c = .dot → c = '.') ∧ (Sign.of c = .opened → c = '(') ∧
      (Sign.of c = .closed → c = ')') ∧ (Sign.of c = .comma → c = ',') := by
  unfold Sign.of
  repeat' split
  all_goals simp_all

/-- A name that can stand in a template: not empty, and without dots, parentheses and commas. -/
def ProperName (s : String) : Prop :=
  s ≠ "" ∧ ∀ c ∈ s.toList, c ≠ '.' ∧ c ≠ '(' ∧ c ≠ ')' ∧ c ≠ ','

theorem ProperName.letters {s : String} (hs : ProperName s) :
    ∀ c ∈ s.toList, Sign.of c = .letter :=
  fun c hc => Sign.of_eq_letter_iff.mpr (hs.2 c hc)

theorem properName_singleton {c : Char} (hc : Sign.of c = .letter) :
    ProperName (.singleton c) := by
  constructor
  · intro hempty
    simpa using congrArg String.toList hempty
  · simpa using Sign.of_eq_letter_iff.mp hc

theorem properName_push {n : String} {c : Char} (hn : ProperName n) (hc : Sign.of c = .letter) :
    ProperName (n.push c) := by
  constructor
  · intro hempty
    simpa using congrArg String.toList hempty
  · intro d hd
    rw [String.toList_push, List.mem_append, List.mem_singleton] at hd
    rcases hd with hd | rfl
    · exact hn.2 d hd
    · exact Sign.of_eq_letter_iff.mp hc

namespace Expr

/-! ### Expressions without spans -/

/-- The same tree without any span. -/
def bare : Expr → Expr
  | identifier x _ => identifier (.ofName x.name) .dummy
  | implicitIterator _ => implicitIterator .dummy
  | access base key _ => access base.bare (.ofName key.name) .dummy
  | filtered filter argument curried _ => filtered filter.bare argument.bare curried .dummy

/-- All names and keys are proper. -/
def WellNamed : Expr → Prop
  | identifier x _ => ProperName x.name
  | implicitIterator _ => True
  | access base key _ => base.WellNamed ∧ ProperName key.name
  | filtered filter argument _ _ => filter.WellNamed ∧ argument.WellNamed

/-- The implicit iterator. -/
def isDot : Expr → Bool
  | implicitIterator _ => true
  | _ => false

/-- A chain that ends with a bound argument. -/
def isCurried : Expr → Bool
  | filtered _ _ curried _ => curried
  | _ => false

/-! ### The reader -/

/-- How far the expression that is being read has got. -/
inductive Reading where
  /-- An expression begins. -/
  | start
  /-- An expression that may end here, or go on. -/
  | complete (e : Expr)
  /-- A dot after an expression. -/
  | dotted (e : Expr)
  /-- A comma after an argument of a call. -/
  | comma (head argument : Expr)
  /-- The dots that end a chain. -/
  | dots

/-- An expression with one more letter to its last name. -/
def grow : Expr → Char → Option Expr
  | identifier x s, c => some (identifier ⟨x.name.push c, x.span⟩ s)
  | implicitIterator s, c => some (access (implicitIterator s) (.ofName (.singleton c)) .dummy)
  | access base key s, c => some (access base ⟨key.name.push c, key.span⟩ s)
  | filtered _ _ _ _, _ => none

/-- Read a character, with the calls that are open, the innermost first. -/
def step (state : Reading × List Expr) (c : Char) : Option (Reading × List Expr) :=
  match state.1, Sign.of c, state.2 with
  | .start, .dot, hs => some (.complete (implicitIterator .dummy), hs)
  | .start, .letter, hs => some (.complete (identifier (.ofName (.singleton c)) .dummy), hs)
  | .complete e, .letter, hs => (e.grow c).map fun e' => (.complete e', hs)
  | .complete e, .dot, hs => some (.dotted e, hs)
  | .complete e, .opened, hs => if e.isCurried then none else some (.start, e :: hs)
  | .complete a, .comma, h :: hs => some (.comma h a, hs)
  | .complete a, .closed, h :: hs => some (.complete (filtered h a false .dummy), hs)
  | .comma h a, .letter, hs =>
    if c = ' ' then some (.start, filtered h a true .dummy :: hs) else none
  | .dotted e, .letter, hs =>
    if e.isDot then none else some (.complete (access e (.ofName (.singleton c)) .dummy), hs)
  | .dotted e, .dot, hs => if e.isDot then some (.dots, hs) else none
  | .dots, .closed, h :: hs => if h.isCurried then some (.complete h, hs) else none
  | _, _, _ => none

/-- Read a list of characters. -/
def steps (cs : List Char) (state : Reading × List Expr) : Option (Reading × List Expr) :=
  cs.foldlM step state

/-- Read a whole text. -/
def read (text : String) : Option Expr :=
  match steps text.toList (.start, []) with
  | some (.complete e, []) => some e
  | _ => none

theorem steps_append (cs ds : List Char) (state : Reading × List Expr) :
    steps (cs ++ ds) state = (steps cs state).bind (steps ds) :=
  List.foldlM_append

@[simp] theorem steps_nil (state : Reading × List Expr) : steps [] state = some state := rfl

theorem steps_cons (c : Char) (cs : List Char) (state : Reading × List Expr) :
    steps (c :: cs) state = (step state c).bind (steps cs) := rfl

/-! ### Reading what is printed -/

/-- A name that has begun is read to its end. -/
theorem steps_letters {e : String → Expr} (hgrow : ∀ n c, (e n).grow c = some (e (n.push c)))
    (n : String) {cs : List Char} (hcs : ∀ c ∈ cs, Sign.of c = .letter) (hs : List Expr) :
    steps cs (.complete (e n), hs) = some (.complete (e (n ++ .ofList cs)), hs) := by
  induction cs generalizing n with
  | nil => rw [String.ofList_nil, String.append_empty]; rfl
  | cons c cs ih =>
    have hc : Sign.of c = .letter := hcs c List.mem_cons_self
    have hstep : step (.complete (e n), hs) c = some (.complete (e (n.push c)), hs) := by
      simp only [step, hc, hgrow, Option.map_some]
    have hname : n.push c ++ String.ofList cs = n ++ String.ofList (c :: cs) := by
      simp [← String.toList_inj]
    rw [steps_cons, hstep, Option.bind_some, ih (n.push c) fun d hd => hcs d (.tail _ hd), hname]

/-- A proper name is read as a whole, from wherever its first letter is read. -/
theorem steps_properName {e : String → Expr}
    (hgrow : ∀ n c, (e n).grow c = some (e (n.push c))) {state : Reading} {hs : List Expr}
    (hfirst : ∀ c, Sign.of c = .letter →
      step (state, hs) c = some (.complete (e (.singleton c)), hs))
    {s : String} (hname : ProperName s) :
    steps s.toList (state, hs) = some (.complete (e s), hs) := by
  have hletters := hname.letters
  rcases hcs : s.toList with - | ⟨c, cs⟩
  · exact absurd (String.toList_eq_nil_iff.mp hcs) hname.1
  · rw [hcs] at hletters
    have hs' : String.singleton c ++ String.ofList cs = s := by
      simp [← String.toList_inj, hcs]
    -- the first letter begins the name, the others make it grow
    rw [steps_cons, hfirst c (hletters c List.mem_cons_self), Option.bind_some,
      steps_letters hgrow _ (fun d hd => hletters d (.tail _ hd)), hs']

theorem bare_isCurried (e : Expr) : e.bare.isCurried = e.isCurried := by
  cases e <;> rfl

theorem eq_implicitIterator_of_isDot {e : Expr} (he : e.isDot = true) :
    ∃ s, e = implicitIterator s := by
  cases e with
  | implicitIterator s => exact ⟨s, rfl⟩
  | identifier | access | filtered => cases he

theorem bare_isDot (e : Expr) : e.bare.isDot = e.isDot := by
  cases e <;> rfl

/-- An expression that is no open chain is followed by a parenthesis where it is called. -/
theorem write_true_of_not_curried {e : Expr} (he : e.isCurried = false) :
    e.write true = e.write false ++ "(" := by
  cases e with
  | identifier | implicitIterator => simp [write, opening]
  | access base key s => cases base <;> simp [write, opening, String.append_assoc]
  | filtered f a curried s =>
    obtain rfl : curried = false := he
    simp [write, closing, opening, String.append_assoc]

theorem write_access_of_not_dot {base : Expr} (hbase : base.isDot = false) (key : Ident)
    (s : Span) :
    (access base key s).write false = base.write false ++ "." ++ key.name := by
  cases base with
  | implicitIterator => cases hbase
  | identifier | access | filtered => simp [write, opening]

theorem steps_open_of_not_curried {e : Expr} (he : e.isCurried = false) {hs : List Expr}
    (h : steps (e.write false).toList (.start, hs) = some (.complete e.bare, hs)) :
    steps (e.write true).toList (.start, hs) = some (.start, e.bare :: hs) := by
  have hopen : step (.complete e.bare, hs) '(' = some (.start, e.bare :: hs) := by
    simp [step, bare_isCurried, he]
  rw [write_true_of_not_curried he, String.toList_append, steps_append, h, Option.bind_some]
  simp [steps_cons, hopen]

/-- A printed expression is read back without its spans, alone and as the head of a call. -/
theorem steps_write {e : Expr} (he : e.WellNamed) (hs : List Expr) :
    steps (e.write false).toList (.start, hs) = some (.complete e.bare, hs) ∧
      steps (e.write true).toList (.start, hs) = some (.start, e.bare :: hs) := by
  -- the stack is general: the sides of a call are read above the heads that were open before
  induction e generalizing hs with
  | identifier x s =>
    have hread : steps ((identifier x s).write false).toList (.start, hs)
        = some (.complete (identifier (.ofName x.name) .dummy), hs) := by
      simp only [write, opening, Bool.false_eq_true, if_false, String.append_empty]
      exact steps_properName (e := fun n => identifier (.ofName n) .dummy) (fun _ _ => rfl)
        (fun c hc => by simp only [step, hc]) he
    exact ⟨hread, steps_open_of_not_curried rfl hread⟩
  | implicitIterator s =>
    have hread : steps ((implicitIterator s).write false).toList (.start, hs)
        = some (.complete (implicitIterator .dummy), hs) := by
      simp [write, opening, steps_cons, step]
    exact ⟨hread, steps_open_of_not_curried rfl hread⟩
  | access base key s ih =>
    obtain ⟨hbase, hkey⟩ := he
    have hread : steps ((access base key s).write false).toList (.start, hs)
        = some (.complete (access base key s).bare, hs) := by
      rcases hdot : base.isDot with - | -
      · -- the dot before the key is one more character
        have hdotted : step (.complete base.bare, hs) '.' = some (.dotted base.bare, hs) := by
          simp [step]
        rw [write_access_of_not_dot hdot, String.append_assoc, String.toList_append, steps_append,
          (ih hbase hs).1, Option.bind_some, String.toList_append, steps_append]
        simp only [String.reduceToList, steps_cons, hdotted, Option.bind_some, steps_nil]
        exact steps_properName (e := fun n => access base.bare (.ofName n) .dummy)
          (fun _ _ => rfl) (fun c hc => by simp [step, hc, bare_isDot, hdot]) hkey
      · -- the dot before the key is the base itself
        obtain ⟨t, rfl⟩ := eq_implicitIterator_of_isDot hdot
        have hstart : step (.start, hs) '.' = some (.complete (implicitIterator .dummy), hs) := by
          simp [step]
        simp only [write, opening, Bool.false_eq_true, if_false, String.append_empty,
          String.toList_append, steps_append, String.reduceToList, steps_cons, hstart,
          Option.bind_some, steps_nil]
        exact steps_properName (e := fun n => access (implicitIterator .dummy) (.ofName n) .dummy)
          (fun _ _ => rfl) (fun c hc => by simp [step, hc, grow]) hkey
    exact ⟨hread, steps_open_of_not_curried rfl hread⟩
  | filtered f a curried s ihf iha =>
    obtain ⟨hf, ha⟩ := he
    -- the argument is read above the head, which has been put on the stack
    have hsides : steps (f.write true ++ a.write false).toList (.start, hs)
        = some (.complete a.bare, f.bare :: hs) := by
      rw [String.toList_append, steps_append, (ihf hf hs).2, Option.bind_some, (iha ha _).1]
    cases curried with
    | false =>
      have hread : steps ((filtered f a false s).write false).toList (.start, hs)
          = some (.complete (filtered f a false s).bare, hs) := by
        rw [write, String.toList_append, steps_append, hsides, Option.bind_some]
        simp [closing, opening, steps_cons, step, bare]
      exact ⟨hread, steps_open_of_not_curried rfl hread⟩
    | true =>
      constructor
      · -- the dots that end the chain take it off the stack again
        rw [write, String.toList_append, steps_append, hsides, Option.bind_some]
        simp [closing, steps_cons, step, bare, isDot, isCurried]
      · rw [write, String.toList_append, steps_append, hsides, Option.bind_some]
        simp [closing, steps_cons, step, bare]

theorem read_print {e : Expr} (he : e.WellNamed) : read e.print = some e.bare := by
  rw [read, print, (steps_write he []).1]

/-! ### Printing what was read -/

/-- The rules of reading a character. -/
inductive Step : Reading × List Expr → Char → Reading × List Expr → Prop where
  | iterator {hs} : Step (.start, hs) '.' (.complete (implicitIterator .dummy), hs)
  | name {c hs} (hc : Sign.of c = .letter) :
      Step (.start, hs) c (.complete (identifier (.ofName (.singleton c)) .dummy), hs)
  | letter {e e' c hs} (hc : Sign.of c = .letter) (he : e.grow c = some e') :
      Step (.complete e, hs) c (.complete e', hs)
  | dot {e hs} : Step (.complete e, hs) '.' (.dotted e, hs)
  | opened {e hs} (he : e.isCurried = false) : Step (.complete e, hs) '(' (.start, e :: hs)
  | comma {h a hs} : Step (.complete a, h :: hs) ',' (.comma h a, hs)
  | closed {h a hs} :
      Step (.complete a, h :: hs) ')' (.complete (filtered h a false .dummy), hs)
  | blank {h a hs} : Step (.comma h a, hs) ' ' (.start, filtered h a true .dummy :: hs)
  | key {e c hs} (hc : Sign.of c = .letter) (he : e.isDot = false) :
      Step (.dotted e, hs) c (.complete (access e (.ofName (.singleton c)) .dummy), hs)
  | dots {s hs} : Step (.dotted (implicitIterator s), hs) '.' (.dots, hs)
  | dangling {h hs} (hh : h.isCurried = true) : Step (.dots, h :: hs) ')' (.complete h, hs)

/-- Every character is read by one of the rules. -/
theorem rule_of_step {state state' : Reading × List Expr} {c : Char}
    (h : step state c = some state') : Step state c state' := by
  obtain ⟨hdot, hopened, hclosed, hcomma⟩ := Sign.eq_of_of (c := c)
  obtain ⟨reading, hs⟩ := state
  unfold step at h
  -- the cases are the equations of `step` in their order; after the last no character is read
  split at h <;> dsimp only at *
  case h_1 hr hc =>
    obtain rfl := hdot hc
    subst hr
    cases h
    exact .iterator
  case h_2 hr hc =>
    subst hr
    cases h
    exact .name hc
  case h_3 e hr hc =>
    subst hr
    obtain ⟨e', he', rfl⟩ := Option.map_eq_some_iff.mp h
    exact .letter hc he'
  case h_4 e hr hc =>
    obtain rfl := hdot hc
    subst hr
    cases h
    exact .dot
  case h_5 e hr hc =>
    obtain rfl := hopened hc
    subst hr
    obtain ⟨he, hstate⟩ := Option.ite_none_left_eq_some.mp h
    cases hstate
    exact .opened (by simpa using he)
  case h_6 a g gs hr hc hgs =>
    obtain rfl := hcomma hc
    subst hr hgs
    cases h
    exact .comma
  case h_7 a g gs hr hc hgs =>
    obtain rfl := hclosed hc
    subst hr hgs
    cases h
    exact .closed
  case h_8 g a hr hc =>
    subst hr
    obtain ⟨rfl, hstate⟩ := Option.ite_none_right_eq_some.mp h
    cases hstate
    exact .blank
  case h_9 e hr hc =>
    subst hr
    obtain ⟨he, hstate⟩ := Option.ite_none_left_eq_some.mp h
    cases hstate
    exact .key hc (by simpa using he)
  case h_10 e hr hc =>
    obtain rfl := hdot hc
    subst hr
    obtain ⟨he, hstate⟩ := Option.ite_none_right_eq_some.mp h
    obtain ⟨s, rfl⟩ := eq_implicitIterator_of_isDot he
    cases hstate
    exact .dots
  case h_11 g gs hr hc hgs =>
    obtain rfl := hclosed hc
    subst hr hgs
    obtain ⟨hg, hstate⟩ := Option.ite_none_right_eq_some.mp h
    cases hstate
    exact .dangling hg
  case h_12 => cases h

/-- The text of an expression that is being read. -/
def Reading.text : Reading → String
  | start => ""
  | complete e => e.write false
  | dotted e => e.write false ++ "."
  | comma h a => h.write true ++ a.write false ++ ","
  | dots => "..."

/-- The text of the calls that are open. -/
def openText : List Expr → String
  | [] => ""
  | h :: hs => openText hs ++ h.write true

/-- All that has been read. -/
def spelled (state : Reading × List Expr) : String :=
  openText state.2 ++ state.1.text

theorem write_grow {e e' : Expr} {c : Char} (h : e.grow c = some e') :
    e'.write false = (e.write false).push c := by
  cases e with
  | identifier x s =>
    cases h
    simp [write, opening]
  | implicitIterator s =>
    cases h
    simp [write, opening, Ident.ofName]
  | access base key s =>
    cases h
    cases base <;> simp [write, opening, ← String.toList_inj]
  | filtered f a curried s => cases h

/-- The text of a chain that goes on, and of one that is left open. -/
theorem write_of_curried {h : Expr} (hh : h.isCurried = true) :
    ∃ text, h.write true = text ++ ", " ∧ h.write false = text ++ ", ...)" := by
  cases h with
  | identifier | implicitIterator | access => cases hh
  | filtered f a curried s =>
    obtain rfl : curried = true := hh
    exact ⟨f.write true ++ a.write false, rfl, rfl⟩

/-- A character that is read is one more character of the text. -/
theorem spelled_step {state state' : Reading × List Expr} {c : Char}
    (h : Step state c state') : spelled state' = (spelled state).push c := by
  cases h with
  | iterator | dot => simp [spelled, Reading.text, write, opening, ← String.toList_inj]
  | name => simp [spelled, Reading.text, write, opening, Ident.ofName]
  | letter _ he => simp [spelled, Reading.text, write_grow he, ← String.toList_inj]
  | opened he =>
    simp [spelled, Reading.text, openText, write_true_of_not_curried he, ← String.toList_inj]
  | comma => simp [spelled, Reading.text, openText, ← String.toList_inj]
  | closed =>
    simp [spelled, Reading.text, openText, write, closing, opening, ← String.toList_inj]
  | blank => simp [spelled, Reading.text, openText, write, closing, ← String.toList_inj]
  | key _ he =>
    simp [spelled, Reading.text, write_access_of_not_dot he, Ident.ofName, ← String.toList_inj]
  | dots => simp [spelled, Reading.text, write, opening, ← String.toList_inj]
  | dangling hh =>
    -- the comma and the blank before the dots are the end of the open head
    obtain ⟨text, htrue, hfalse⟩ := write_of_curried hh
    simp [spelled, Reading.text, openText, htrue, hfalse, ← String.toList_inj]

/-! ### What is read is plain -/

/-- Well named and without spans. -/
def Plain (e : Expr) : Prop :=
  e.WellNamed ∧ e.bare = e

theorem plain_identifier {n : String} (hn : ProperName n) :
    (identifier (.ofName n) .dummy).Plain :=
  ⟨hn, rfl⟩

theorem plain_access {base : Expr} {key : String} (hbase : base.Plain) (hkey : ProperName key) :
    (access base (.ofName key) .dummy).Plain :=
  ⟨⟨hbase.1, hkey⟩, by rw [bare, hbase.2]; rfl⟩

theorem plain_filtered {f a : Expr} {curried : Bool} (hf : f.Plain) (ha : a.Plain) :
    (filtered f a curried .dummy).Plain :=
  ⟨⟨hf.1, ha.1⟩, by rw [bare, hf.2, ha.2]⟩

theorem plain_grow {e e' : Expr} {c : Char} (he : e.Plain) (hc : Sign.of c = .letter)
    (h : e.grow c = some e') : e'.Plain := by
  obtain ⟨hnames, hbare⟩ := he
  cases e with
  | identifier x s =>
    cases h
    obtain ⟨hx, rfl⟩ := identifier.inj hbare
    rw [← hx]
    exact plain_identifier (properName_push hnames hc)
  | implicitIterator s =>
    cases h
    rw [← implicitIterator.inj hbare]
    -- a letter behind the dot makes it the base of an access
    exact plain_access ⟨trivial, rfl⟩ (properName_singleton hc)
  | access base key s =>
    cases h
    obtain ⟨hbase, hkey, rfl⟩ := access.inj hbare
    rw [← hkey]
    exact plain_access ⟨hnames.1, hbase⟩ (properName_push hnames.2 hc)
  | filtered f a curried s => cases h

/-- The expressions that are being read are plain. -/
def Reading.Plain : Reading → Prop
  | start | dots => True
  | complete e | dotted e => e.Plain
  | comma h a => h.Plain ∧ a.Plain

/-- All expressions that have been read are plain. -/
def PlainState (state : Reading × List Expr) : Prop :=
  state.1.Plain ∧ ∀ h ∈ state.2, h.Plain

theorem plain_step {state state' : Reading × List Expr} {c : Char} (h : Step state c state')
    (hstate : PlainState state) : PlainState state' := by
  obtain ⟨hreading, hopen⟩ := hstate
  cases h with
  | iterator => exact ⟨⟨trivial, rfl⟩, hopen⟩
  | name hc => exact ⟨plain_identifier (properName_singleton hc), hopen⟩
  | letter hc he => exact ⟨plain_grow hreading hc he, hopen⟩
  | dot => exact ⟨hreading, hopen⟩
  | opened he => exact ⟨trivial, List.forall_mem_cons.mpr ⟨hreading, hopen⟩⟩
  | comma =>
    obtain ⟨hhead, hrest⟩ := List.forall_mem_cons.mp hopen
    exact ⟨⟨hhead, hreading⟩, hrest⟩
  | closed =>
    obtain ⟨hhead, hrest⟩ := List.forall_mem_cons.mp hopen
    exact ⟨plain_filtered hhead hreading, hrest⟩
  -- the blank makes the call a head on the stack
  | blank =>
    obtain ⟨hhead, hargument⟩ := hreading
    exact ⟨trivial, List.forall_mem_cons.mpr ⟨plain_filtered hhead hargument, hopen⟩⟩
  | key hc he => exact ⟨plain_access hreading (properName_singleton hc), hopen⟩
  | dots => exact ⟨trivial, hopen⟩
  | dangling hh => exact List.forall_mem_cons.mp hopen

/-- A run of the reader spells its characters, and what it has read stays plain. -/
theorem spelled_steps {cs : List Char} {state state' : Reading × List Expr}
    (h : steps cs state = some state') (hstate : PlainState state) :
    spelled state' = spelled state ++ .ofList cs ∧ PlainState state' := by
  induction cs generalizing state with
  | nil =>
    cases h
    exact ⟨by rw [String.ofList_nil, String.append_empty], hstate⟩
  | cons c cs ih =>
    rw [steps_cons, Option.bind_eq_some_iff] at h
    obtain ⟨next, hnext, hrest⟩ := h
    have hrule : Step state c next := rule_of_step hnext
    obtain ⟨htext, hplain⟩ := ih hrest (plain_step hrule hstate)
    refine ⟨?_, hplain⟩
    rw [htext, spelled_step hrule]
    simp [← String.toList_inj]

/-- **What is read is plain and prints the text it was read from.** -/
theorem plain_of_read {text : String} {e : Expr} (h : read text = some e) :
    e.Plain ∧ e.print = text := by
  unfold read at h
  split at h
  · next e' hsteps =>
    cases h
    obtain ⟨htext, hplain, -⟩ := spelled_steps hsteps ⟨trivial, by simp⟩
    exact ⟨hplain, by simpa [spelled, openText, Reading.text, print] using htext⟩
  · cases h

/-- A chain that was left open is no head. -/
example : read "f(a, ...)(b)" = none := by decide +kernel

/-! ### Printing is unambiguous -/

/-- Spans are not printed. -/
theorem write_bare (e : Expr) (opened : Bool) : e.bare.write opened = e.write opened := by
  induction e generalizing opened with
  | identifier | implicitIterator => rfl
  | access base key s ih =>
    cases base with
    | implicitIterator => rfl
    | identifier | access | filtered => simp only [bare, write] at ih ⊢; rw [ih]; rfl
  | filtered f a curried s ihf iha => rw [bare, write, write, ihf, iha]

theorem print_bare (e : Expr) : e.bare.print = e.print :=
  write_bare e false

/-- **Two expressions with proper names are printed alike only if they are the same tree up to
spans; reading recovers that tree from its text, and from no other text.** -/
theorem print_eq_print_iff {d e : Expr} (hd : d.WellNamed) (he : e.WellNamed) :
    (d.print = e.print ↔ d.bare = e.bare) ∧
      ∀ text, read text = some e.bare ↔ e.print = text := by
  constructor
  · constructor
    · intro h
      -- both are read back from the one text
      have hread : some d.bare = some e.bare := by rw [← read_print hd, h, read_print he]
      exact Option.some.inj hread
    · intro h
      rw [← print_bare d, h, print_bare]
  · intro text
    constructor
    · intro h
      rw [← (plain_of_read h).2, print_bare]
    · rintro rfl
      exact read_print he

/-- The expression `f(a)(g(.b, ...))` where it stands in a template. -/
def nestedCall : Expr :=
  mkFiltered (mkFiltered (identifierAt "f" (.ofNat 0 1)) (identifierAt "a" (.ofNat 2 3)) false)
    (mkFiltered (identifierAt "g" (.ofNat 5 6))
      (mkAccess (implicitIterator (.ofNat 7 8)) ⟨"b", .ofNat 8 9⟩) true) false

theorem print_eq_print_iff_nestedCall :
    nestedCall.WellNamed ∧ nestedCall.bare.WellNamed ∧
      nestedCall.print = nestedCall.bare.print ∧
      read "f(a)(g(.b, ...))" = some nestedCall.bare := by
  have hnested : nestedCall.WellNamed := by
    simp [nestedCall, mkFiltered, mkAccess, WellNamed, ProperName, identifierAt]
  have hbare : nestedCall.bare.WellNamed := by
    simp [nestedCall, mkFiltered, mkAccess, bare, WellNamed, ProperName, identifierAt, Ident.ofName]
  obtain ⟨hiff, hread⟩ := print_eq_print_iff hbare hnested
  exact ⟨hnested, hbare, (hiff.mpr rfl).symm, (hread _).mpr (by decide +kernel)⟩

end Expr

end TagExpr
