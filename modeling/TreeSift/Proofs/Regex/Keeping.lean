import TreeSift.Regex.Reader

/-! # Readers that keep to a source

A source that is refused is malformed, or there is something to be seen in its text
(`Regex.RefusedFor`): a run of digits that writes too great a bound or too great a code, or the letters
of two flags that exclude each other.

A reader keeps to a source if what is left to read stays an end of it and if the source is refused
only for such a reason (`Read.Keeps`). What it takes is then a part of the source
(`Read.Gives`). -/

namespace TreeSift.Regex

open TreeSift.Text (digitsValue digitLimit isHexDigit)

/-- The `digits` come one after the other in `source`, and are decimal ones. -/
structure DigitsOf (source digits : List Char) : Prop where
  /-- They are a part of it. -/
  isPart : digits <:+: source
  /-- They are digits. -/
  isDigit : ∀ c ∈ digits, c.isDigit = true

/-- The `digits` come one after the other in `source`, and are hexadecimal ones. -/
structure HexDigitsOf (source digits : List Char) : Prop where
  /-- They are a part of it. -/
  isPart : digits <:+: source
  /-- They are hexadecimal digits. -/
  isHexDigit : ∀ c ∈ digits, isHexDigit c = true

/-- **Why a source is refused**, as far as it shows in its text: for each `Refusal` but `malformed`,
the letters or digits that have to be there. -/
inductive RefusedFor (source : List Char) : Refusal → Prop where
  /-- It is malformed. -/
  | malformed (fault : Fault) : RefusedFor source (.malformed fault)
  /-- It holds hexadecimal digits that write too great a code. -/
  | codeTooLarge {digits : List Char} (hdigits : HexDigitsOf source digits)
      (hlarge : codeLimit ≤ digitsValue 16 digits) : RefusedFor source .codeTooLarge
  /-- It holds digits that write too great a number. -/
  | repetitionTooLarge {digits : List Char} (hdigits : DigitsOf source digits)
      (hlarge : repetitionLimit ≤ digitsValue 10 digits) : RefusedFor source .repetitionTooLarge
  /-- It holds too many digits after each other. -/
  | boundTooLong {digits : List Char} (hdigits : DigitsOf source digits)
      (hlong : digitLimit < digits.length) : RefusedFor source (.boundTooLong digits.length)
  /-- It holds the letters of two flags that exclude each other. -/
  | clashingFlags (hascii : 'a' ∈ source) (hunicode : 'u' ∈ source) :
      RefusedFor source .clashingFlags

/-! ## What is left to read -/

namespace Cursor

variable {cursor next : Cursor}

/-- What is left to read, the next token of `cursor` included. -/
def pending (cursor : Cursor) : List Char :=
  cursor.next?.elim [] Token.text ++ cursor.rest

/-- Moving on by `advance` leaves what comes after the next token. -/
theorem pending_of_advance (h : cursor.advance = .ok next) : next.pending = cursor.rest := by
  rw [advance] at h
  split at h
  · next hrest =>
    cases h
    simp [pending, hrest]
  · cases h
  · next c rest hrest =>
    cases h
    simp [pending, hrest, Token.text]
  · next c rest _ hrest =>
    cases h
    simp [pending, hrest, Token.text]

/-- Before the end of a source, the next token is the start of what is `pending`. -/
theorem pending_of_next? {token : Token} (h : cursor.next? = some token) :
    cursor.pending = token.text ++ cursor.rest := by
  rw [pending, h]
  rfl

end Cursor

/-- Flags of which those for classes of characters, `ascii` and `unicode`, have their letters in
`source`. -/
structure Flags.From (flags : Flags) (source : List Char) : Prop where
  /-- The letter of the classes of ASCII. -/
  ascii : flags.ascii = true → 'a' ∈ source
  /-- The letter of the classes of Unicode. -/
  unicode : flags.unicode = true → 'u' ∈ source

/-- **A reader within a source**: what is `pending` is an end of it, and its flags are `From` it. -/
structure ReadState.Within (state : ReadState) (source : List Char) : Prop where
  /-- What is left to read is an end of the source. -/
  pending : state.cursor.pending <:+ source
  /-- The flags of the whole expression are from the source. -/
  flags : state.flags.From source

/-- Moving on stays `Within` the source. -/
theorem ReadState.Within.advance {state : ReadState} {source : List Char} {cursor : Cursor}
    (h : state.Within source) (hadvance : state.cursor.advance = .ok cursor) :
    ReadState.Within { state with cursor } source := by
  refine ⟨?_, h.flags⟩
  rw [Cursor.pending_of_advance hadvance]
  exact (List.suffix_append _ _).trans h.pending

namespace Read

variable {α β : Type} {state : ReadState} {P : α → ReadState → Prop} {R : Refusal → Prop}

/-! ## How readers end -/

/-- **How a reader ends**: it gives a value and leaves a state that satisfy `P`, or it refuses the
source for a reason that satisfies `R`. -/
def Ends (read : Read α) (state : ReadState) (P : α → ReadState → Prop) (R : Refusal → Prop) :
    Prop :=
  match read.run state with
  | .ok (value, reached) => P value reached
  | .error refusal => R refusal

theorem Ends.mono {P' : α → ReadState → Prop} {R' : Refusal → Prop} {read : Read α}
    (h : Ends read state P R) (hvalue : ∀ value reached, P value reached → P' value reached)
    (hrefusal : ∀ refusal, R refusal → R' refusal) : Ends read state P' R' := by
  rw [Ends] at h ⊢
  split at h
  · exact hvalue _ _ h
  · exact hrefusal _ h

/-- A reader that refuses a source does so for a reason that satisfies `R`. -/
theorem Ends.of_error {read : Read α} {refusal : Refusal} (h : Ends read state P R)
    (hrun : read.run state = .error refusal) : R refusal := by
  rw [Ends, hrun] at h
  exact h

/-- A reader that goes on with another one ends as this ends from where it has got to: `Ends` of
`>>=` is `Ends` twice. -/
theorem ends_bind {P : β → ReadState → Prop} {first : Read α} {next : α → Read β} :
    Ends (first >>= next) state P R ↔
      Ends first state (fun value reached => Ends (next value) reached P R) R := by
  have hrun : (first >>= next).run state =
      (first.run state >>= fun reached => (next reached.1).run reached.2) := rfl
  rw [Ends, Ends, hrun]
  cases first.run state <;> rfl

theorem ends_get {P : ReadState → ReadState → Prop} : Ends get state P R ↔ P state state :=
  .rfl

/-- Looking at the next token by `peek?` leaves it there. -/
theorem ends_peek? {P : Option Token → ReadState → Prop} :
    Ends peek? state P R ↔ P state.cursor.next? state :=
  .rfl

/-- Moving on by `skip` drops the next token, or refuses the source as malformed. -/
theorem ends_skip {P : Unit → ReadState → Prop} :
    Ends skip state P R ↔
      match state.cursor.advance with
      | .ok cursor => P () { state with cursor }
      | .error fault => R (.malformed fault) := by
  rw [skip, ends_bind, ends_get]
  cases state.cursor.advance <;> rfl

/-- A token that `take?` gives is the next one, which is dropped. -/
theorem ends_take? {P : Option Token → ReadState → Prop} :
    Ends take? state P R ↔ Ends skip state (fun _ reached => P state.cursor.next? reached) R := by
  rw [take?, ends_bind, ends_peek?, ends_bind]
  rfl

/-- **What is taken while** `p` **holds** satisfies it and comes before what is left. -/
theorem ends_takeWhile (p : Char → Bool) (n : Nat) (state : ReadState) :
    Ends (takeWhile p n) state
      (fun taken reached => state.cursor.pending = taken ++ reached.cursor.pending ∧
        (∀ c ∈ taken, p c = true) ∧ reached.flags = state.flags)
      (fun refusal => ∃ fault, refusal = .malformed fault) := by
  -- on the number of characters that may be taken
  induction n generalizing state with
  | zero => exact ⟨rfl, by simp, rfl⟩
  | succ n ih =>
      rw [takeWhile, ends_bind, ends_peek?]
      split
      · next c hnext =>
        by_cases hp : p c = true
        · rw [if_pos hp, ends_bind, ends_skip]
          cases hadvance : state.cursor.advance with
          | error fault => exact ⟨fault, rfl⟩
          | ok cursor =>
              refine ends_bind.2 ((ih { state with cursor }).mono ?_ fun _ h => h)
              rintro taken reached ⟨hpending, htaken, hflags⟩
              refine ⟨?_, List.forall_mem_cons.2 ⟨hp, htaken⟩, hflags⟩
              rw [Cursor.pending_of_next? hnext, ← Cursor.pending_of_advance hadvance, hpending]
              rfl
        · rw [if_neg hp]
          exact ⟨rfl, by simp, rfl⟩
      · exact ⟨rfl, by simp, rfl⟩

/-! ## Readers that keep to a source -/

/-- A reader that keeps to `source`: it stays within it, gives what satisfies `P`, and refuses it
only for a reason that is `RefusedFor`. -/
def Gives (source : List Char) (P : α → Prop) (read : Read α) : Prop :=
  ∀ state : ReadState, state.Within source →
    Ends read state (fun value reached => reached.Within source ∧ P value) (RefusedFor source)

/-- **A reader that keeps to a source**, whatever it gives: `Gives` with no condition. -/
def Keeps (source : List Char) (read : Read α) : Prop :=
  Gives source (fun _ => True) read

variable {source : List Char} {P : α → Prop} {Q : β → Prop}

theorem Gives.bind {first : Read α} {next : α → Read β} (hfirst : Gives source P first)
    (hnext : ∀ value, P value → Gives source Q (next value)) : Gives source Q (first >>= next) := by
  intro state hstate
  rw [ends_bind]
  exact (hfirst state hstate).mono (fun value reached h => hnext value h.2 reached h.1) fun _ h => h

/-- What satisfies `P` satisfies the weaker `P'`. -/
theorem Gives.mono {P' : α → Prop} {read : Read α} (h : Gives source P read)
    (himp : ∀ value, P value → P' value) : Gives source P' read :=
  fun state hstate =>
    (h state hstate).mono (fun _ _ hgiven => ⟨hgiven.1, himp _ hgiven.2⟩) fun _ h => h

theorem Gives.keeps {read : Read α} (h : Gives source P read) : Keeps source read :=
  h.mono fun _ _ => trivial

theorem Gives.keeps_bind {first : Read α} {next : α → Read β} (hfirst : Gives source P first)
    (hnext : ∀ value, P value → Keeps source (next value)) : Keeps source (first >>= next) :=
  hfirst.bind hnext

@[grind ←] theorem keeps_bind {first : Read α} {next : α → Read β} (hfirst : Keeps source first)
    (hnext : ∀ value, Keeps source (next value)) : Keeps source (first >>= next) :=
  Gives.keeps_bind hfirst fun value _ => hnext value

theorem gives_pure {value : α} (h : P value) : Gives source P (pure value : Read α) :=
  fun _ hstate => ⟨hstate, h⟩

@[grind ←] theorem keeps_pure (value : α) : Keeps source (pure value : Read α) :=
  gives_pure trivial

theorem gives_get : Gives source (fun state : ReadState => state.Within source) get :=
  fun _ hstate => ⟨hstate, hstate⟩

@[grind ←] theorem keeps_get : Keeps source (get : Read ReadState) :=
  gives_get.keeps

theorem keeps_set {state : ReadState} (h : state.Within source) : Keeps source (set state) :=
  fun _ _ => ⟨h, trivial⟩

theorem keeps_modify {change : ReadState → ReadState}
    (h : ∀ state : ReadState, state.Within source → (change state).Within source) :
    Keeps source (modify change) :=
  fun state hstate => ⟨h state hstate, trivial⟩

theorem gives_throw {refusal : Refusal} (h : RefusedFor source refusal) :
    Gives source P (throw refusal : Read α) :=
  fun _ _ => h

/-- After a refusal nothing is read: `throw` is kept by `>>=`. -/
@[simp] theorem throw_bind (refusal : Refusal) (next : α → Read β) :
    ((throw refusal : Read α) >>= next) = throw refusal :=
  rfl

/-- After a fault nothing is read: `fault` is kept by `>>=`. -/
@[simp] theorem fault_bind (problem : Problem) (back : Nat) (next : α → Read β) :
    ((fault problem back : Read α) >>= next) = fault problem back :=
  rfl

/-- A fault is a reason to refuse any source: `malformed` says nothing of its text. -/
theorem gives_fault (problem : Problem) (back : Nat) :
    Gives source P (fault problem back : Read α) := by
  rw [fault]
  exact gives_get.bind fun _ _ => gives_throw (.malformed _)

@[grind ←] theorem keeps_fault (problem : Problem) (back : Nat) :
    Keeps source (fault problem back : Read α) :=
  gives_fault problem back

/-! ## Taking tokens -/

@[grind ←] theorem keeps_peek? : Keeps source peek? := by
  rw [peek?]
  grind

@[grind ←] theorem keeps_position : Keeps source position := by
  rw [position]
  grind

@[grind ←] theorem keeps_remaining : Keeps source remaining := by
  rw [remaining]
  grind

@[grind ←] theorem keeps_skip : Keeps source skip := by
  intro state hstate
  rw [ends_skip]
  split
  · next hadvance => exact ⟨hstate.advance hadvance, trivial⟩
  · exact .malformed _

/-- A character that `take?` gives is from the source. -/
theorem gives_take? :
    Gives source (fun token? => ∀ c, token? = some (.plain c) → c ∈ source) take? := by
  intro state hstate
  rw [ends_take?]
  refine (keeps_skip state hstate).mono (fun _ reached h => ⟨h.1, fun c hc => ?_⟩) fun _ h => h
  have hpending := hstate.pending
  rw [Cursor.pending_of_next? hc] at hpending
  exact hpending.subset List.mem_cons_self

@[grind ←] theorem keeps_take? : Keeps source take? :=
  gives_take?.keeps

@[grind ←] theorem keeps_accept (c : Char) : Keeps source (accept c) := by
  rw [accept]
  grind

/-- What `takeWhile` gives is a part of the source, and satisfies `p`. -/
theorem gives_takeWhile (p : Char → Bool) (n : Nat) :
    Gives source (fun taken => taken <:+: source ∧ ∀ c ∈ taken, p c = true) (takeWhile p n) := by
  intro state hstate
  refine (ends_takeWhile p n state).mono ?_ ?_
  · rintro taken reached ⟨hpending, htaken, hflags⟩
    have hsource := hstate.pending
    rw [hpending] at hsource
    refine ⟨⟨(List.suffix_append _ _).trans hsource, hflags ▸ hstate.flags⟩, ?_, htaken⟩
    exact (List.prefix_append _ _).isInfix.trans hsource.isInfix
  · rintro refusal ⟨fault, rfl⟩
    exact .malformed fault

/-- Digits that `takeWhile` gives are digits of the source. -/
theorem gives_digits (n : Nat) : Gives source (DigitsOf source) (takeWhile Char.isDigit n) :=
  (gives_takeWhile Char.isDigit n).mono fun _ h => ⟨h.1, h.2⟩

@[grind ←] theorem keeps_takeWhile (p : Char → Bool) (n : Nat) : Keeps source (takeWhile p n) :=
  (gives_takeWhile p n).keeps

@[grind ←] theorem keeps_takeUntil (terminator : Char) (what : String) (n : Nat)
    (taken : List Char) : Keeps source (takeUntil terminator what n taken) := by
  induction n generalizing taken with
  | zero =>
      rw [takeUntil]
      grind
  | succ n ih =>
      rw [takeUntil]
      grind

@[grind ←] theorem keeps_name (terminator : Char) (what : String) :
    Keeps source (name terminator what) := by
  rw [name]
  grind

/-! ## Groups -/

@[grind ←] theorem keeps_isClosed (index : Nat) : Keeps source (isClosed index) := by
  rw [isClosed]
  grind

@[grind ←] theorem keeps_checkLookBehind (index : Nat) : Keeps source (checkLookBehind index) := by
  rw [checkLookBehind]
  grind

@[grind ←] theorem keeps_openGroup (groupName : Option (List Char)) :
    Keeps source (openGroup groupName) := by
  rw [openGroup]
  refine gives_get.keeps_bind fun state hstate => ?_
  have hopened {groups : Array (Option Width)} {names : List (String × Nat)} :
      Keeps source (set { state with groups, names } : Read Unit) :=
    keeps_set ⟨hstate.pending, hstate.flags⟩
  cases groupName with
  | none => exact keeps_bind hopened fun _ => keeps_pure _
  | some chars =>
      dsimp only
      split
      · exact keeps_bind (keeps_fault _ _) fun _ => keeps_pure _
      · exact keeps_bind hopened fun _ => keeps_pure _

@[grind ←] theorem keeps_widths : Keeps source widths := by
  rw [widths]
  grind

@[grind ←] theorem keeps_closeGroup (index : Nat) (body : Node) :
    Keeps source (closeGroup index body) := by
  rw [closeGroup]
  exact keeps_bind keeps_widths fun _ => keeps_modify fun _ hstate => ⟨hstate.pending, hstate.flags⟩

end Read

end TreeSift.Regex
