import Reckoner.Proofs.Conversion

namespace Reckoner

/-!
# Places in an expression

Which tokens may come next in an expression depends on two things only: whether
an operand has to come, and how many parentheses are open.  A `Place` keeps
these two, and `Place.walk` goes along some tokens as far as they fit.

A walk says all that there is to say about acceptance and about blame.  Tokens
are accepted if and only if the walk goes through them and ends where no
operand is missing and no parenthesis is open (`parse_ok_iff_walk`).  What
comes before the end of a walk can always be completed, and nothing that goes
on with the token at which the walk stops is accepted (`viable_iff_walk`).  The
descent fails with the failure that belongs to the end of the walk
(`walk_of_parse_error`).

Numbers that cannot be read are left out of this, because a walk does not look
at the texts of tokens.
-/

/-- Where a reading of an expression stands between two tokens. -/
structure Place where
  /-- Whether an operand has to come next. -/
  expectsOperand : Bool
  /-- The number of parentheses that are open. -/
  depth : Nat
  deriving DecidableEq

/-- Tokens with which an accepted expression can begin. -/
def Viable (tokens : List Token) : Prop :=
  ∃ rest tree, parse (tokens ++ rest) = .ok tree

def Readable (tokens : List Token) : Prop :=
  ∀ token ∈ tokens, token.kind = .number -> (readNumber token.text).isSome = true

theorem Readable.of_cons {token : Token} {rest : List Token} (readable : Readable (token :: rest)) :
    Readable rest :=
  fun other member => readable other (.tail token member)

theorem Readable.of_append_right {front back : List Token} (readable : Readable (front ++ back)) :
    Readable back :=
  fun token member => readable token (List.mem_append_right front member)

theorem Readable.append {front back : List Token} (before : Readable front)
    (behind : Readable back) : Readable (front ++ back) :=
  List.forall_mem_append.mpr ⟨before, behind⟩

theorem Derives.readable {phrase : Phrase} {tokens : List Token} {tree : Expression Float}
    (derived : Derives phrase tokens tree) : Readable tokens := by
  have other {token : Token} (kind : token.kind ≠ .number) : Readable [token] := by
    simp [Readable, kind]
  induction derived with
  | single _ inductionHypothesis => exact inductionHypothesis
  | joined _ kind _ _ onFront onBack =>
      exact onFront.append ((other (by simp [kind])).append onBack)
  | signed run _ inductionHypothesis =>
      refine Readable.append (fun sign member kind => ?_) inductionHypothesis
      have isSign := run sign member
      simp [Token.isSign, kind, TokenKind.isSign] at isSign
  | number kind reads => simp [Readable, reads]
  | identifier kind => exact other (by simp [kind])
  | @parenthesized opening closing _ _ opens closes _ inductionHypothesis =>
      have opened : Readable [opening] := other (by simp [opens])
      have closed : Readable [closing] := other (by simp [closes])
      exact (opened.append inductionHypothesis).append closed

namespace Place

def start : Place := ⟨true, 0⟩

def finished : Place := ⟨false, 0⟩

/-- The place behind a token, if one of its kind fits. -/
def step? : Place -> TokenKind -> Option Place
  | ⟨true, depth⟩, .number | ⟨true, depth⟩, .identifier => some ⟨false, depth⟩
  | ⟨true, depth⟩, .opening => some ⟨true, depth + 1⟩
  | ⟨true, depth⟩, .negate | ⟨true, depth⟩, .binary .add | ⟨true, depth⟩, .binary .subtract =>
      some ⟨true, depth⟩
  | ⟨false, depth⟩, .binary _ => some ⟨true, depth⟩
  | ⟨false, depth + 1⟩, .closing => some ⟨false, depth⟩
  | _, _ => none

/-- Goes along some tokens as far as they fit, and returns the place reached
and the tokens that are left. -/
def walk (place : Place) : List Token -> Place × List Token
  | [] => (place, [])
  | token :: rest =>
      match place.step? token.kind with
      | some next => walk next rest
      | none => (place, token :: rest)

/-- The failure of the descent at the end of a walk. -/
def descentFailure (place : Place) (suspect : List Token) : Failure :=
  if !place.expectsOperand && 0 < place.depth then .missingCloseParenthesis
  else Descent.unexpected suspect

/-! ## Walks -/

theorem walk_step {place next : Place} {token : Token} (rest : List Token)
    (fits : place.step? token.kind = some next) :
    place.walk (token :: rest) = next.walk rest := by
  rw [walk, fits]

theorem walk_stop {place : Place} {suspect : List Token}
    (stops : ∀ token ∈ suspect.head?, place.step? token.kind = none) :
    place.walk suspect = (place, suspect) := by
  cases suspect with
  | nil => rfl
  | cons token rest => rw [walk, stops token rfl]

theorem walk_through_cons {place stop : Place} {token : Token} {rest : List Token}
    (through : place.walk (token :: rest) = (stop, [])) :
    ∃ next, place.step? token.kind = some next ∧ next.walk rest = (stop, []) := by
  rw [walk] at through
  cases fits : place.step? token.kind with
  | none =>
      rw [fits] at through
      cases through
  | some next =>
      rw [fits] at through
      exact ⟨next, rfl, through⟩

theorem walk_append {place stop : Place} {front : List Token} (rest : List Token)
    (through : place.walk front = (stop, [])) :
    place.walk (front ++ rest) = stop.walk rest := by
  induction front generalizing place with
  | nil =>
      cases through
      rfl
  | cons token front inductionHypothesis =>
      rcases walk_through_cons through with ⟨next, fits, further⟩
      rw [List.cons_append, walk_step _ fits]
      exact inductionHypothesis further

/-- A walk goes through the tokens before those that are left, of which the
first does not fit. -/
theorem walk_eq_iff {place stop : Place} {tokens suspect : List Token} :
    place.walk tokens = (stop, suspect) ↔
      ∃ front, tokens = front ++ suspect ∧ place.walk front = (stop, []) ∧
        ∀ token ∈ suspect.head?, stop.step? token.kind = none := by
  constructor
  · intro walked
    induction tokens generalizing place with
    | nil =>
        cases walked
        exact ⟨[], rfl, rfl, by simp⟩
    | cons token rest inductionHypothesis =>
        rw [walk] at walked
        cases fits : place.step? token.kind with
        | none =>
            rw [fits] at walked
            cases walked
            exact ⟨[], rfl, rfl, by simp [fits]⟩
        | some next =>
            rw [fits] at walked
            rcases inductionHypothesis walked with ⟨front, rfl, through, stops⟩
            exact ⟨token :: front, rfl, (walk_step front fits).trans through, stops⟩
  · rintro ⟨front, rfl, through, stops⟩
    rw [walk_append suspect through, walk_stop stops]

/-- A step past a token tells what the token was: only behind the end of an
operand none is expected, and only parentheses change the depth. -/
theorem of_step? {place next : Place} {kind : TokenKind} (fits : place.step? kind = some next) :
    next.expectsOperand = !kind.endsOperand ∧
      next.depth + (if kind = .closing then 1 else 0) =
        place.depth + (if kind = .opening then 1 else 0) := by
  rw [step?.eq_def] at fits
  split at fits <;> cases fits <;> simp [TokenKind.endsOperand]

/-- The place that a walk through some tokens comes to, in terms of these
tokens. -/
theorem of_walk {place stop : Place} {front : List Token}
    (through : place.walk front = (stop, [])) :
    (∀ token ∈ front.getLast?, stop.expectsOperand = !token.kind.endsOperand) ∧
      stop.depth + front.countP (·.kind = .closing) =
        place.depth + front.countP (·.kind = .opening) := by
  induction front generalizing place with
  | nil =>
      cases through
      simp
  | cons token front inductionHypothesis =>
      rcases walk_through_cons through with ⟨next, fits, further⟩
      rcases of_step? fits with ⟨expects, depth⟩
      rcases inductionHypothesis further with ⟨last, balance⟩
      constructor
      · cases front with
        | nil =>
            cases further
            simpa using expects
        | cons other front => simpa using last
      · simp only [List.countP_cons, decide_eq_true_eq]
        omega

/-! ## Walks and derivations -/

theorem step?_sign {token : Token} (sign : token.isSign = true) (depth : Nat) :
    step? ⟨true, depth⟩ token.kind = some ⟨true, depth⟩ := by
  rw [Token.isSign] at sign
  cases kind : token.kind with
  | binary op =>
      rw [kind] at sign
      cases op with
      | add | subtract => rfl
      | multiply | divide => cases sign
  | negate => rfl
  | number | identifier | opening | closing | endOfInput =>
      rw [kind] at sign
      cases sign

theorem walk_signs {signs : List Token} (run : ∀ sign ∈ signs, sign.isSign = true) (depth : Nat)
    (rest : List Token) : walk ⟨true, depth⟩ (signs ++ rest) = walk ⟨true, depth⟩ rest := by
  induction signs with
  | nil => rfl
  | cons sign signs inductionHypothesis =>
      rw [List.cons_append, walk_step _ (step?_sign (run sign List.mem_cons_self) depth)]
      exact inductionHypothesis fun other member => run other (.tail _ member)

theorem walk_operator {token : Token} {op : Operator} (kind : token.kind = .binary op)
    (depth : Nat) (rest : List Token) :
    walk ⟨false, depth⟩ (token :: rest) = walk ⟨true, depth⟩ rest := by
  apply walk_step
  rw [kind]
  rfl

theorem walk_opening {token : Token} (kind : token.kind = .opening) (depth : Nat)
    (rest : List Token) :
    walk ⟨true, depth⟩ (token :: rest) = walk ⟨true, depth + 1⟩ rest := by
  apply walk_step
  rw [kind]
  rfl

/-- A walk goes through every phrase, whatever follows it, and leaves the depth
as it was. -/
theorem walk_of_derives {phrase : Phrase} {tokens : List Token} {tree : Expression Float}
    (derived : Derives phrase tokens tree) (depth : Nat) (rest : List Token) :
    walk ⟨true, depth⟩ (tokens ++ rest) = walk ⟨false, depth⟩ rest := by
  induction derived generalizing depth rest with
  | single _ inductionHypothesis => exact inductionHypothesis depth rest
  | joined _ kind _ _ onFront onBack =>
      rw [List.append_assoc, onFront, List.cons_append, walk_operator kind, onBack]
  | signed run _ inductionHypothesis =>
      rw [List.append_assoc, walk_signs run, inductionHypothesis]
  | number kind _ =>
      apply walk_step
      rw [kind]
      rfl
  | identifier kind =>
      apply walk_step
      rw [kind]
      rfl
  | parenthesized opens closes _ inductionHypothesis =>
      rw [List.append_assoc, List.cons_append, walk_opening opens, inductionHypothesis]
      apply walk_step
      rw [closes]
      rfl

theorem step?_missing {token : Token} (begins : token.kind.beginsLeaf = false)
    (unsigned : token.isSign = false) (depth : Nat) :
    step? ⟨true, depth⟩ token.kind = none := by
  rw [Token.isSign] at unsigned
  cases kind : token.kind with
  | binary op =>
      rw [kind] at unsigned
      cases op with
      | add | subtract => cases unsigned
      | multiply | divide => rfl
  | closing | endOfInput => rfl
  | negate =>
      rw [kind] at unsigned
      cases unsigned
  | number | identifier | opening =>
      rw [kind] at begins
      cases begins

/-- Behind a sum nothing fits but an operator, or a closing parenthesis if one
is open. -/
theorem step?_surplus {token : Token} (operator : ∀ op, token.kind ≠ .binary op) (depth : Nat)
    (closes : token.kind = .closing -> depth = 0) : step? ⟨false, depth⟩ token.kind = none := by
  cases kind : token.kind with
  | binary op => exact absurd kind (operator op)
  | closing =>
      rw [closes kind]
      rfl
  | number | identifier | negate | opening | endOfInput => rfl

/-- A walk stops at the token at which a phrase is stuck, and the descent
reports what belongs to the place. -/
theorem walk_of_stuck {phrase : Phrase} {tokens suspect : List Token} {failure : Failure}
    (stuck : Stuck phrase tokens suspect failure) (readable : Readable tokens) (depth : Nat) :
    ∃ stop, walk ⟨true, depth⟩ tokens = (stop, suspect) ∧ (stop, suspect) ≠ (finished, []) ∧
      failure = stop.descentFailure suspect := by
  induction stuck generalizing depth with
  | member _ inductionHypothesis => exact inductionHypothesis readable depth
  | joined first kind _ _ inductionHypothesis =>
      rw [walk_of_derives first, walk_operator kind]
      exact inductionHypothesis readable.of_append_right.of_cons depth
  | signed run _ inductionHypothesis =>
      rw [walk_signs run]
      exact inductionHypothesis readable.of_append_right depth
  | missing missing =>
      refine ⟨_, walk_stop fun token first => ?_, fun same => ?_, rfl⟩
      · exact step?_missing (missing token first).1 (missing token first).2 depth
      · cases same
  | unreadable kind fails =>
      have reads := readable _ List.mem_cons_self kind
      rw [fails] at reads
      cases reads
  | inside opens _ inductionHypothesis =>
      rw [walk_opening opens]
      exact inductionHypothesis readable.of_cons (depth + 1)
  | unclosed opens inner stops unclosed =>
      rw [walk_opening opens, walk_of_derives inner]
      refine ⟨_, walk_stop fun token first => ?_, fun same => ?_, rfl⟩
      · exact step?_surplus (stops.kind_ne_binary token first) _
          fun closes => absurd closes (unclosed token first)
      · cases same

/-! ## Completing an expression -/

/-- A walk that stops does so whatever follows. -/
theorem walk_append_of_stop {place stop : Place} {tokens suspect : List Token}
    (walked : place.walk tokens = (stop, suspect)) (stuck : suspect ≠ []) (rest : List Token) :
    place.walk (tokens ++ rest) = (stop, suspect ++ rest) := by
  rcases walk_eq_iff.mp walked with ⟨front, rfl, through, stops⟩
  rcases List.exists_cons_of_ne_nil stuck with ⟨token, behind, rfl⟩
  exact walk_eq_iff.mpr ⟨front, by simp, through, stops⟩

theorem walk_of_append {place stop : Place} {front back : List Token}
    (through : place.walk (front ++ back) = (stop, [])) : (place.walk front).2 = [] := by
  rcases walked : place.walk front with ⟨other, suspect⟩
  by_contra stuck
  rw [walk_append_of_stop walked stuck] at through
  exact stuck (List.append_eq_nil_iff.mp (Prod.mk.inj through).2).1

theorem walk_through_append {place stop : Place} {front back : List Token}
    (through : place.walk (front ++ back) = (stop, [])) :
    ∃ between, place.walk front = (between, []) ∧ between.walk back = (stop, []) := by
  rcases walked : place.walk front with ⟨between, suspect⟩
  have none := walk_of_append through
  rw [walked] at none
  cases none
  rw [walk_append _ walked] at through
  exact ⟨between, rfl, through⟩

/-- Tokens that lead from a place to the end of an expression: an operand if
one is missing, and the parentheses that close the open ones. -/
def completion (place : Place) : List Token :=
  (if place.expectsOperand then [⟨.identifier, "x"⟩] else []) ++
    List.replicate place.depth (.ofKind .closing)

theorem kind_of_mem_completion {place : Place} {token : Token}
    (member : token ∈ place.completion) : token.kind = .identifier ∨ token.kind = .closing := by
  rw [completion, List.mem_append] at member
  rcases member with operand | closing
  · split at operand
    · rw [List.mem_singleton.mp operand]
      exact .inl rfl
    · cases operand
  · rw [(List.mem_replicate.mp closing).2]
    exact .inr rfl

theorem walk_completion (place : Place) : place.walk place.completion = (finished, []) := by
  have closed (depth : Nat) :
      walk ⟨false, depth⟩ (List.replicate depth (.ofKind .closing)) = (finished, []) := by
    induction depth with
    | zero => rfl
    | succ depth inductionHypothesis => exact inductionHypothesis
  rcases place with ⟨expectsOperand, depth⟩
  cases expectsOperand with
  | false => exact closed depth
  | true => exact closed depth

end Place

/-! ## Acceptance and failure -/

section Parsing

variable {tokens : List Token} (endless : ∀ token ∈ tokens, token.kind ≠ .endOfInput)
include endless

theorem walk_of_parse {tree : Expression Float} (parsed : parse tokens = .ok tree) :
    Place.start.walk tokens = (.finished, []) := by
  have walked := Place.walk_of_derives (derives_of_parse endless parsed) 0 []
  rwa [List.append_nil] at walked

/-- Where there is no tree a walk stops early, or ends where an expression may
not end. -/
theorem walk_of_parse_error {failure : Failure} (readable : Readable tokens)
    (failed : parse tokens = .error failure) :
    ∃ stop suspect, Place.start.walk tokens = (stop, suspect) ∧
      (stop, suspect) ≠ (.finished, []) ∧ failure = stop.descentFailure suspect := by
  have accounts := Descent.accounts_read (.chain .sum) tokens (by simp)
  rw [Descent.parse_eq_read, takeWhile_ne_endOfInput endless] at failed
  rcases result : Descent.read (.chain .sum) tokens with
    found | ⟨tree, _ | ⟨token, rest⟩⟩
  · rw [result] at accounts failed
    cases failed
    rcases accounts with ⟨suspect, stuck⟩
    rcases Place.walk_of_stuck stuck readable 0 with ⟨stop, walked, unfinished, same⟩
    exact ⟨stop, suspect, walked, unfinished, same⟩
  · rw [result] at failed
    cases failed
  · rw [result] at accounts failed
    cases failed
    rcases accounts with ⟨front, rfl, derived, stops⟩
    refine ⟨⟨false, 0⟩, token :: rest, ?_, by simp, rfl⟩
    rw [Place.start, Place.walk_of_derives derived]
    apply Place.walk_stop
    intro other first
    exact Place.step?_surplus (stops.kind_ne_binary other first) 0 fun _ => rfl

theorem parse_ok_iff_walk (readable : Readable tokens) :
    (∃ tree, parse tokens = .ok tree) ↔ Place.start.walk tokens = (.finished, []) := by
  constructor
  · rintro ⟨tree, parsed⟩
    exact walk_of_parse endless parsed
  · intro through
    cases parsed : parse tokens with
    | ok tree => exact ⟨tree, rfl⟩
    | error failure =>
        rcases walk_of_parse_error endless readable parsed with
          ⟨stop, suspect, walked, unfinished, _⟩
        rw [through] at walked
        exact absurd walked.symm unfinished

/-- Some tokens are the beginning of an accepted expression if and only if a
walk goes through them. -/
theorem viable_iff_walk (readable : Readable tokens) :
    Viable tokens ↔ (Place.start.walk tokens).2 = [] := by
  constructor
  · rintro ⟨rest, tree, parsed⟩
    have derived := Descent.derives_of_parse parsed
    have among : ∀ token ∈ tokens, (token.kind != .endOfInput) = true :=
      fun token member => bne_iff_ne.mpr (endless token member)
    rw [List.takeWhile_append_of_pos among] at derived
    exact Place.walk_of_append
      (walk_of_parse derived.kind_ne_endOfInput (parse_of_derives derived))
  · intro through
    rcases walked : Place.start.walk tokens with ⟨stop, suspect⟩
    rw [walked] at through
    cases through
    have whole : Place.start.walk (tokens ++ stop.completion) = (.finished, []) := by
      rw [Place.walk_append _ walked, stop.walk_completion]
    have endless' : ∀ token ∈ tokens ++ stop.completion, token.kind ≠ .endOfInput := by
      intro token member
      rcases List.mem_append.mp member with among | added
      · exact endless token among
      · rcases Place.kind_of_mem_completion added with kind | kind <;> simp [kind]
    have readable' : Readable (tokens ++ stop.completion) := by
      refine readable.append fun token added number => ?_
      rcases Place.kind_of_mem_completion added with kind | kind <;> simp [kind] at number
    exact ⟨stop.completion, (parse_ok_iff_walk endless' readable').mpr whole⟩

end Parsing

end Reckoner
