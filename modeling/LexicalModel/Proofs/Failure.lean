import LexicalModel.Failure
import Mathlib.Data.List.Forall2

/-!
# Chains of steps that may fail

Most of the library is a chain of steps, of which the first failure ends the whole.  The lemmas here
take such chains apart: which step succeeded with what, what became of the state, and which kinds of
failures can come out.

* `ok_of_bind`, `Result.andThen_eq_ok_iff` : a chain that succeeds
* `mapM_eq_ok_iff`, `mapM_eq_map`, `mapM_eq_error` : the same step for every item of a list
* `bind_eq_of_ok`, `Result.andThen_eq`, `Result.andThen_rel` : chains that come to the same
* `Result.andThen_invariant`, `Result.andThen_state` : what a chain makes of the state
* `ErrorIs`, `Result.Ordinary`, `Result.FailsAs` : which errors can come out
-/

namespace LexicalModel

/-! ### Chains that succeed -/

@[simp] theorem ok_bind {ε α β : Type} (a : α) (f : α → Except ε β) :
    (Except.ok a >>= f) = f a := rfl

/-- A chain succeeds only if its first step does. -/
theorem ok_of_bind {ε α β : Type} {x : Except ε α} {f : α → Except ε β} {b : β}
    (h : (x >>= f) = .ok b) : ∃ a, x = .ok a ∧ f a = .ok b := by
  cases x with
  | error e => cases h
  | ok a => exact ⟨a, rfl, h⟩

/-- Chains that start alike come to the same if they go on alike from where they get to. -/
theorem bind_eq_of_ok {ε α β : Type} {x : Except ε α} {f g : α → Except ε β}
    (h : ∀ a, x = .ok a → f a = g a) : (x >>= f) = (x >>= g) := by
  cases x with
  | error e => rfl
  | ok a => exact h a rfl

theorem mapM_eq_of_mem {ε α β : Type} {f g : α → Except ε β} {as : List α}
    (h : ∀ a ∈ as, f a = g a) : as.mapM f = as.mapM g := by
  induction as with
  | nil => rfl
  | cons a as ih =>
    rw [List.mapM_cons, List.mapM_cons, h a List.mem_cons_self,
      ih fun a' ha' => h a' (List.mem_cons_of_mem _ ha')]

/-- The same step succeeds for every item just where it does for each. -/
theorem mapM_eq_ok_iff {ε α β : Type} {f : α → Except ε β} {as : List α} {bs : List β} :
    as.mapM f = .ok bs ↔ List.Forall₂ (fun a b => f a = .ok b) as bs := by
  induction as generalizing bs with
  | nil => cases bs <;> simp [pure, Except.pure]
  | cons a as ih =>
    rw [List.mapM_cons, List.forall₂_cons_left_iff]
    constructor
    · intro h
      obtain ⟨b, hb, h⟩ := ok_of_bind h
      obtain ⟨rest, hrest, h⟩ := ok_of_bind h
      cases h
      exact ⟨b, rest, hb, ih.1 hrest, rfl⟩
    · rintro ⟨b, rest, hb, hrest, rfl⟩
      rw [hb, ok_bind, ih.2 hrest]
      rfl

theorem exists_mapM_eq_ok_iff {ε α β : Type} {f : α → Except ε β} {as : List α} :
    (∃ bs, as.mapM f = .ok bs) ↔ ∀ a ∈ as, ∃ b, f a = .ok b := by
  simp only [mapM_eq_ok_iff]
  induction as with
  | nil => simp
  | cons a as ih =>
    simp only [List.forall₂_cons_left_iff, List.forall_mem_cons, ← ih]
    constructor
    · rintro ⟨_, b, rest, hb, hrest, rfl⟩
      exact ⟨⟨b, hb⟩, rest, hrest⟩
    · rintro ⟨⟨b, hb⟩, rest, hrest⟩
      exact ⟨_, b, rest, hb, hrest, rfl⟩

theorem mapM_eq_map {ε α β : Type} {f : α → Except ε β} {g : α → β} {as : List α}
    (h : ∀ a ∈ as, f a = .ok (g a)) : as.mapM f = .ok (as.map g) := by
  induction as with
  | nil => rfl
  | cons a as ih =>
    obtain ⟨ha, has⟩ := List.forall_mem_cons.1 h
    rw [List.mapM_cons, ha, ok_bind, ih has]
    rfl

/-- The first step that fails decides, whatever follows. -/
theorem mapM_eq_error {ε α β : Type} {f : α → Except ε β} {before after : List α} {a : α} {e : ε}
    (hbefore : ∀ a' ∈ before, ∃ b, f a' = .ok b) (ha : f a = .error e) :
    (before ++ a :: after).mapM f = .error e := by
  induction before with
  | nil =>
    rw [List.nil_append, List.mapM_cons, ha]
    rfl
  | cons a' before ih =>
    obtain ⟨⟨b, hb⟩, hrest⟩ := List.forall_mem_cons.1 hbefore
    rw [List.cons_append, List.mapM_cons, hb, ok_bind, ih hrest]
    rfl

theorem eq_ok_of_toOption {ε α : Type} {x : Except ε α} {a : α} (h : x.toOption = some a) :
    x = .ok a := by
  cases x with
  | error e => cases h
  | ok b =>
    cases h
    rfl

namespace Result

variable {σ α β : Type}

theorem ok_of_within {ctx : Context} {x : Result α} {a : α} (h : within ctx x = .ok a) :
    x = .ok a := by
  cases x with
  | error e => cases h
  | ok b => exact h

theorem ok_of_ofCause {ε : Type} {toCause : ε → Cause} {x : Except ε α} {a : α}
    (h : ofCause toCause x = .ok a) : x = .ok a := by
  cases x with
  | error e => cases h
  | ok b => exact congrArg Except.ok (Except.ok.inj h)

theorem ok_of_toOption {x : Result α × σ} {a : α} (h : x.1.toOption = some a) :
    x = (.ok a, x.2) :=
  Prod.ext (eq_ok_of_toOption h) rfl

theorem error_of_toOption {x : Result α × σ} (h : x.1.toOption.isNone = true) :
    ∃ f, x = (.error f, x.2) := by
  obtain ⟨y, s⟩ := x
  cases y with
  | error f => exact ⟨f, rfl⟩
  | ok b => cases h

/-! ### Chains with a state -/

theorem ok_of_andThen {step : Result α × σ} {rest : α → σ → Result β × σ} {b : β}
    (h : (andThen step rest).1 = .ok b) : ∃ a, step.1 = .ok a ∧ (rest a step.2).1 = .ok b := by
  obtain ⟨x, s⟩ := step
  cases x with
  | error f => cases h
  | ok a => exact ⟨a, rfl, h⟩

/-- A chain succeeds just where its first step does and the rest does from there. -/
theorem andThen_eq_ok_iff {step : Result α × σ} {rest : α → σ → Result β × σ} {b : β} {s' : σ} :
    andThen step rest = (.ok b, s') ↔ ∃ a s, step = (.ok a, s) ∧ rest a s = (.ok b, s') := by
  obtain ⟨x, s⟩ := step
  cases x with
  | error f => simp [andThen]
  | ok a => simp [andThen]

/-- What holds of the state after the first step, and is kept from there on, holds after the whole
chain, also where it ends early. -/
theorem andThen_invariant {P : σ → Prop} {step : Result α × σ} {rest : α → σ → Result β × σ}
    (hstep : P step.2) (hrest : ∀ a s, P s → P (rest a s).2) : P (andThen step rest).2 := by
  obtain ⟨x, s⟩ := step
  cases x with
  | error f => exact hstep
  | ok a => exact hrest a s hstep

/-- What holds of the state after the first step, and is kept wherever the rest fails, holds where
the chain fails. -/
theorem andThen_error_invariant {P : σ → Prop} {step : Result α × σ} {rest : α → σ → Result β × σ}
    {f : Failure} (h : (andThen step rest).1 = .error f) (hstep : P step.2)
    (hrest : ∀ a s, P s → (rest a s).1 = .error f → P (rest a s).2) : P (andThen step rest).2 := by
  obtain ⟨x, s⟩ := step
  cases x with
  | error e => exact hstep
  | ok a => exact hrest a s hstep h

/-- A chain leaves the state as it is when each of its steps does. -/
theorem andThen_state {step : Result α × σ} {rest : α → σ → Result β × σ} {s : σ}
    (hstep : step.2 = s) (hrest : ∀ a, (rest a s).2 = s) : (andThen step rest).2 = s := by
  refine andThen_invariant (P := (· = s)) hstep ?_
  rintro a t rfl
  exact hrest a

/-- Chains whose steps leave their states as they are come to the same if their steps do. -/
theorem andThen_eq {step step' : Result α × σ} {rest rest' : α → σ → Result β × σ} {s s' : σ}
    (hs : step.2 = s) (hs' : step'.2 = s') (hstep : step.1 = step'.1)
    (hrest : ∀ a, step.1 = .ok a → (rest a s).1 = (rest' a s').1) :
    (andThen step rest).1 = (andThen step' rest').1 := by
  obtain ⟨x, t⟩ := step
  obtain ⟨x', t'⟩ := step'
  cases hs
  cases hs'
  cases hstep
  cases x with
  | error f => rfl
  | ok a => exact hrest a rfl

/-- Chains whose steps come to the same, in states that correspond to each other, come to the same
in such states. -/
theorem andThen_rel {R : σ → σ → Prop} {step step' : Result α × σ}
    {rest rest' : α → σ → Result β × σ} (hstep : step.1 = step'.1 ∧ R step.2 step'.2)
    (hrest : ∀ a s s', R s s' → (rest a s).1 = (rest' a s').1 ∧ R (rest a s).2 (rest' a s').2) :
    (andThen step rest).1 = (andThen step' rest').1 ∧
      R (andThen step rest).2 (andThen step' rest').2 := by
  obtain ⟨x, s⟩ := step
  obtain ⟨x', s'⟩ := step'
  obtain ⟨hx, hs⟩ := hstep
  cases hx
  cases x with
  | error f => exact ⟨rfl, hs⟩
  | ok a => exact hrest a s s' hs

end Result

/-! ### Kinds of failures -/

section Errors

variable {ε α β : Type}

/-- If there is an error, it is one of the given ones. -/
def ErrorIs (P : ε → Prop) (x : Except ε α) : Prop := ∀ e, x = .error e → P e

theorem errorIs_ok (P : ε → Prop) (a : α) : ErrorIs P (.ok a : Except ε α) := by
  intro e h
  cases h

theorem errorIs_error {P : ε → Prop} {e : ε} (h : P e) : ErrorIs P (.error e : Except ε α) := by
  intro e' h'
  cases h'
  exact h

theorem ErrorIs.bind {P : ε → Prop} {x : Except ε α} {f : α → Except ε β} (hx : ErrorIs P x)
    (hf : ∀ a, ErrorIs P (f a)) : ErrorIs P (x >>= f) := by
  cases x with
  | error e => exact errorIs_error (hx e rfl)
  | ok a => exact hf a

theorem ErrorIs.mapM {P : ε → Prop} {f : α → Except ε β} {as : List α}
    (hf : ∀ a ∈ as, ErrorIs P (f a)) : ErrorIs P (as.mapM f) := by
  induction as with
  | nil => exact errorIs_ok P []
  | cons a as ih =>
    rw [List.mapM_cons]
    refine (hf a List.mem_cons_self).bind fun b => ?_
    refine (ih fun a' ha' => hf a' (List.mem_cons_of_mem _ ha')).bind fun bs => ?_
    exact errorIs_ok P _

/-- A cause that is no fault of the model itself. -/
def Cause.IsOrdinary (c : Cause) : Prop := c.kind = .other

namespace Result

/-- If there is a failure, it is no fault of the model itself. -/
def Ordinary (x : Result α) : Prop := ErrorIs (fun f => f.cause.IsOrdinary) x

theorem ordinary_fail {c : Cause} (h : c.IsOrdinary) : Ordinary (fail c : Result α) :=
  errorIs_error h

theorem Ordinary.within {x : Result α} (hx : Ordinary x) (ctx : Context) :
    Ordinary (Result.within ctx x) := by
  cases x with
  | error e => exact errorIs_error (hx e rfl)
  | ok a => exact errorIs_ok _ a

theorem ordinary_ofCause {toCause : ε → Cause} {x : Except ε α}
    (h : ErrorIs (fun e => (toCause e).IsOrdinary) x) : Ordinary (ofCause toCause x) := by
  cases x with
  | error e => exact errorIs_error (h e rfl)
  | ok a => exact errorIs_ok _ a

theorem Ordinary.andThen {σ : Type} {step : Result α × σ} {rest : α → σ → Result β × σ}
    (hstep : Ordinary step.1) (hrest : ∀ a s, Ordinary (rest a s).1) :
    Ordinary (Result.andThen step rest).1 := by
  obtain ⟨x, s⟩ := step
  cases x with
  | error e => exact errorIs_error (hstep e rfl)
  | ok a => exact hrest a s

/-- The result is a failure of the given kind. -/
def FailsAs (kind : FailureKind) (x : Result α) : Prop := ∃ f, x = .error f ∧ f.kind = kind

variable {kind : FailureKind}

theorem not_failsAs_ok (a : α) : ¬FailsAs kind (.ok a) := by
  rintro ⟨f, h, -⟩
  cases h

theorem failsAs_fail_iff {c : Cause} : FailsAs kind (fail c : Result α) ↔ c.kind = kind := by
  constructor
  · rintro ⟨f, h, hkind⟩
    cases h
    exact hkind
  · intro h
    exact ⟨_, rfl, h⟩

theorem Ordinary.not_failsAs {x : Result α} (hx : Ordinary x) (hkind : kind ≠ .other) :
    ¬FailsAs kind x := by
  rintro ⟨f, h, rfl⟩
  exact hkind (hx f h)

/-- A chain fails where its first step does, or where the rest does from there. -/
theorem failsAs_bind_iff {x : Result α} {g : α → Result β} :
    FailsAs kind (x >>= g) ↔ FailsAs kind x ∨ ∃ a, x = .ok a ∧ FailsAs kind (g a) := by
  cases x with
  | error f => simp [FailsAs, bind, Except.bind]
  | ok a => simp [FailsAs]

theorem failsAs_map_iff {x : Result α} {g : α → β} : FailsAs kind (x.map g) ↔ FailsAs kind x := by
  cases x with
  | error f => simp [FailsAs, Except.map]
  | ok a => simp [FailsAs, Except.map]

theorem failsAs_andThen_iff {σ : Type} {step : Result α × σ} {rest : α → σ → Result β × σ} :
    FailsAs kind (Result.andThen step rest).1 ↔
      FailsAs kind step.1 ∨ ∃ a s, step = (.ok a, s) ∧ FailsAs kind (rest a s).1 := by
  obtain ⟨x, s⟩ := step
  cases x with
  | error f => simp [FailsAs, Result.andThen]
  | ok a => simp [FailsAs, Result.andThen]

end Result

end Errors

end LexicalModel
