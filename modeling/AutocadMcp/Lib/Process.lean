import AutocadMcp.Lib.Machine

/-!
# Interleaved programs

A program is a tree of transactions on a state that it shares with others and of
questions that the environment answers; between any two of them other programs may
go on. A transaction that raises leaves the state alone. What a program relies on is
a preorder on what it sees of the world: every action of every program goes up in
it, so a fact that is kept upwards stays true while others run.
-/

namespace AutocadMcp

/-- What the programs of a system share: a state, what each transaction takes from its time, and
the questions with their answers. -/
structure Signature where
  State : Type
  Tick : Type
  Query : Type
  Answer : Type
  Error : Type

/-- A transaction, which raises or leaves a state. -/
abbrev Signature.Transaction (S : Signature) (β : Type) : Type :=
  S.Tick → S.State → Except S.Error (β × S.State)

inductive Prog (S : Signature) (α : Type) : Type 1 where
  | pure (a : α)
  | raise (e : S.Error)
  | call {β : Type} (tx : S.Transaction β) (next : Except S.Error β → Prog S α)
  | ask (q : S.Query) (next : Except S.Error S.Answer → Prog S α)

/-- The shared state and the answers so far. -/
structure View (S : Signature) where
  state : S.State
  asked : List (S.Query × Except S.Error S.Answer)

def View.answered {S : Signature} (v : View S) (q : S.Query) (answer : Except S.Error S.Answer) :
    View S :=
  { v with asked := v.asked ++ [(q, answer)] }

namespace Prog

variable {S : Signature} {α β : Type}

def bind : Prog S α → (α → Prog S β) → Prog S β
  | .pure a, f => f a
  | .raise e, _ => .raise e
  | .call tx next, f => .call tx fun r => (next r).bind f
  | .ask q next, f => .ask q fun r => (next r).bind f

/-- `try: … except …` -/
def handle : Prog S α → (S.Error → Prog S α) → Prog S α
  | .pure a, _ => .pure a
  | .raise e, h => h e
  | .call tx next, h => .call tx fun r => (next r).handle h
  | .ask q next, h => .ask q fun r => (next r).handle h

instance : Monad (Prog S) where
  pure := .pure
  bind := bind

instance : MonadExceptOf S.Error (Prog S) where
  throw := .raise
  tryCatch := handle

def ofExcept : Except S.Error α → Prog S α
  | .ok a => .pure a
  | .error e => .raise e

/-- One transaction, whose exception is raised on. -/
def perform (tx : S.Transaction α) : Prog S α := .call tx ofExcept

/-- A read. -/
def read (f : S.State → Except S.Error α) : Prog S α :=
  perform fun _ s => (f s).map fun a => (a, s)

/-- One question, whose exception is raised on. -/
def question (q : S.Query) : Prog S S.Answer := .ask q ofExcept

def forEach : List β → (β → Prog S Unit) → Prog S Unit
  | [], _ => .pure ()
  | x :: xs, body => (body x).bind fun _ => forEach xs body

end Prog

/-! ## What holds of a program among others -/

section

variable {S : Signature} (Inv : View S → Prop) (Grows : View S → View S → Prop)

/-- From this view on, whatever others do in between, each action of the program keeps the
invariant and goes up, and it returns or raises as the postconditions say. -/
def Sat {α : Type} (onOk : α → View S → Prop) (onError : S.Error → View S → Prop) :
    Prog S α → View S → Prop
  | .pure a, v => onOk a v
  | .raise e, v => onError e v
  | .call tx next, v => ∀ w, Grows v w → Inv w →
      (∀ tick b s, tx tick w.state = .ok (b, s) →
        Inv { w with state := s } ∧ Grows w { w with state := s } ∧
          Sat onOk onError (next (.ok b)) { w with state := s }) ∧
      ∀ tick e, tx tick w.state = .error e → Sat onOk onError (next (.error e)) w
  | .ask q next, v => ∀ w, Grows v w → Inv w → ∀ answer,
      Inv (w.answered q answer) ∧ Grows w (w.answered q answer) ∧
        Sat onOk onError (next answer) (w.answered q answer)

/-- A transaction that keeps the invariant and goes up wherever it commits. -/
def Keeps {β : Type} (tx : S.Transaction β) : Prop :=
  ∀ v tick b s, Inv v → tx tick v.state = .ok (b, s) →
    Inv { v with state := s } ∧ Grows v { v with state := s }

/-- Every transaction of the program keeps the invariant and goes up by itself. -/
def Calm {α : Type} : Prog S α → Prop
  | .pure _ => True
  | .raise _ => True
  | .call tx next => Keeps Inv Grows tx ∧ ∀ r, Calm (next r)
  | .ask _ next => ∀ r, Calm (next r)

/-- The answers are recorded without breaking anything. -/
def Answerable : Prop :=
  ∀ v q answer, Inv v → Inv (v.answered q answer) ∧ Grows v (v.answered q answer)

variable {Inv Grows} {α β : Type} {onOk : α → View S → Prop} {onError : S.Error → View S → Prop}
  {v w : View S}

theorem Sat.mono {onOk' : α → View S → Prop} {onError' : S.Error → View S → Prop}
    (hok : ∀ a v, onOk a v → onOk' a v) (herror : ∀ e v, onError e v → onError' e v) :
    ∀ {m : Prog S α} {v : View S}, Sat Inv Grows onOk onError m v →
      Sat Inv Grows onOk' onError' m v
  | .pure a, v, h => hok a v h
  | .raise e, v, h => herror e v h
  | .call tx next, v, h => by
      intro w hgrows hinv
      obtain ⟨hcommit, hrollback⟩ := h w hgrows hinv
      refine ⟨fun tick b s htx => ?_, fun tick e htx => (hrollback tick e htx).mono hok herror⟩
      obtain ⟨hinv', hgrows', hnext⟩ := hcommit tick b s htx
      exact ⟨hinv', hgrows', hnext.mono hok herror⟩
  | .ask q next, v, h => by
      intro w hgrows hinv answer
      obtain ⟨hinv', hgrows', hnext⟩ := h w hgrows hinv answer
      exact ⟨hinv', hgrows', hnext.mono hok herror⟩

/-- A program that waits stays as good as it was while others run. -/
theorem Sat.waits (htrans : ∀ u v w : View S, Grows u v → Grows v w → Grows u w)
    (hok : ∀ a v w, Grows v w → onOk a v → onOk a w)
    (herror : ∀ e v w, Grows v w → onError e v → onError e w) (hgrows : Grows v w)
    {m : Prog S α} (h : Sat Inv Grows onOk onError m v) : Sat Inv Grows onOk onError m w := by
  cases m with
  | pure a => exact hok a v w hgrows h
  | raise e => exact herror e v w hgrows h
  | call tx next => exact fun u hu hinv => h u (htrans _ _ _ hgrows hu) hinv
  | ask q next => exact fun u hu hinv => h u (htrans _ _ _ hgrows hu) hinv

/-- What stays true upwards is still true where the program ends. -/
theorem Sat.keeping (K : View S → Prop) (hstable : ∀ v w, Grows v w → K v → K w) :
    ∀ {m : Prog S α} {v : View S}, Sat Inv Grows onOk onError m v → K v →
      Sat Inv Grows (fun a w => onOk a w ∧ K w) (fun e w => onError e w ∧ K w) m v
  | .pure _, _, h, hK => ⟨h, hK⟩
  | .raise _, _, h, hK => ⟨h, hK⟩
  | .call tx next, v, h, hK => by
      intro w hgrows hinv
      obtain ⟨hcommit, hrollback⟩ := h w hgrows hinv
      have hKw := hstable v w hgrows hK
      refine ⟨fun tick b s htx => ?_, fun tick e htx => (hrollback tick e htx).keeping K hstable hKw⟩
      obtain ⟨hinv', hgrows', hnext⟩ := hcommit tick b s htx
      exact ⟨hinv', hgrows', hnext.keeping K hstable (hstable _ _ hgrows' hKw)⟩
  | .ask q next, v, h, hK => by
      intro w hgrows hinv answer
      obtain ⟨hinv', hgrows', hnext⟩ := h w hgrows hinv answer
      exact ⟨hinv', hgrows', hnext.keeping K hstable (hstable _ _ hgrows' (hstable _ _ hgrows hK))⟩

theorem sat_pure {a : α} (h : onOk a v) : Sat Inv Grows onOk onError (pure a : Prog S α) v := h

theorem sat_throw {e : S.Error} (h : onError e v) :
    Sat Inv Grows onOk onError (throw e : Prog S α) v := h

theorem sat_bind {onOk : β → View S → Prop} {f : α → Prog S β} :
    ∀ {m : Prog S α} {v : View S},
      Sat Inv Grows (fun a w => Sat Inv Grows onOk onError (f a) w) onError m v →
        Sat Inv Grows onOk onError (m >>= f) v
  | .pure _, _, h => h
  | .raise _, _, h => h
  | .call tx next, v, h => by
      intro w hgrows hinv
      obtain ⟨hcommit, hrollback⟩ := h w hgrows hinv
      refine ⟨fun tick b s htx => ?_, fun tick e htx => sat_bind (hrollback tick e htx)⟩
      obtain ⟨hinv', hgrows', hnext⟩ := hcommit tick b s htx
      exact ⟨hinv', hgrows', sat_bind hnext⟩
  | .ask q next, v, h => by
      intro w hgrows hinv answer
      obtain ⟨hinv', hgrows', hnext⟩ := h w hgrows hinv answer
      exact ⟨hinv', hgrows', sat_bind hnext⟩

theorem sat_handle {f : S.Error → Prog S α} :
    ∀ {m : Prog S α} {v : View S},
      Sat Inv Grows onOk (fun e w => Sat Inv Grows onOk onError (f e) w) m v →
        Sat Inv Grows onOk onError (tryCatch m f) v
  | .pure _, _, h => h
  | .raise _, _, h => h
  | .call tx next, v, h => by
      intro w hgrows hinv
      obtain ⟨hcommit, hrollback⟩ := h w hgrows hinv
      refine ⟨fun tick b s htx => ?_, fun tick e htx => sat_handle (hrollback tick e htx)⟩
      obtain ⟨hinv', hgrows', hnext⟩ := hcommit tick b s htx
      exact ⟨hinv', hgrows', sat_handle hnext⟩
  | .ask q next, v, h => by
      intro w hgrows hinv answer
      obtain ⟨hinv', hgrows', hnext⟩ := h w hgrows hinv answer
      exact ⟨hinv', hgrows', sat_handle hnext⟩

theorem sat_perform {tx : S.Transaction α}
    (hcommit : ∀ w tick a s, Grows v w → Inv w → tx tick w.state = .ok (a, s) →
      Inv { w with state := s } ∧ Grows w { w with state := s } ∧ onOk a { w with state := s })
    (hrollback : ∀ w tick e, Grows v w → Inv w → tx tick w.state = .error e → onError e w) :
    Sat Inv Grows onOk onError (Prog.perform tx) v :=
  fun w hgrows hinv =>
    ⟨fun tick a s htx => hcommit w tick a s hgrows hinv htx,
      fun tick e htx => hrollback w tick e hgrows hinv htx⟩

theorem sat_read {f : S.State → Except S.Error α} (hrefl : ∀ v : View S, Grows v v)
    (hok : ∀ w a, Grows v w → Inv w → f w.state = .ok a → onOk a w)
    (herror : ∀ w e, Grows v w → Inv w → f w.state = .error e → onError e w) :
    Sat Inv Grows onOk onError (Prog.read f) v := by
  refine sat_perform (fun w tick a s hgrows hinv htx => ?_) fun w tick e hgrows hinv htx => ?_
  · cases hf : f w.state with
    | ok b =>
        rw [hf] at htx
        cases htx
        exact ⟨hinv, hrefl w, hok w a hgrows hinv hf⟩
    | error e =>
        rw [hf] at htx
        cases htx
  · cases hf : f w.state with
    | ok b =>
        rw [hf] at htx
        cases htx
    | error e' =>
        rw [hf] at htx
        cases htx
        exact herror w e hgrows hinv hf

theorem sat_question {onOk : S.Answer → View S → Prop} (hanswers : Answerable Inv Grows)
    {q : S.Query}
    (hok : ∀ w a, Grows v w → Inv w → onOk a (w.answered q (.ok a)))
    (herror : ∀ w e, Grows v w → Inv w → onError e (w.answered q (.error e))) :
    Sat Inv Grows onOk onError (Prog.question q) v := by
  intro w hgrows hinv answer
  obtain ⟨hinv', hgrows'⟩ := hanswers w q answer hinv
  refine ⟨hinv', hgrows', ?_⟩
  cases answer with
  | ok a => exact hok w a hgrows hinv
  | error e => exact herror w e hgrows hinv

/-! ### Calm programs -/

theorem calm_pure (a : α) : Calm Inv Grows (pure a : Prog S α) := trivial

theorem calm_throw (e : S.Error) : Calm Inv Grows (throw e : Prog S α) := trivial

theorem calm_bind {m : Prog S α} {f : α → Prog S β} (hm : Calm Inv Grows m)
    (hf : ∀ a, Calm Inv Grows (f a)) : Calm Inv Grows (m >>= f) := by
  induction m with
  | pure a => exact hf a
  | raise e => trivial
  | call tx next ih => exact ⟨hm.1, fun r => ih r (hm.2 r)⟩
  | ask q next ih => exact fun r => ih r (hm r)

theorem calm_handle {m : Prog S α} {f : S.Error → Prog S α} (hm : Calm Inv Grows m)
    (hf : ∀ e, Calm Inv Grows (f e)) : Calm Inv Grows (tryCatch m f) := by
  induction m with
  | pure a => trivial
  | raise e => exact hf e
  | call tx next ih => exact ⟨hm.1, fun r => ih r (hm.2 r)⟩
  | ask q next ih => exact fun r => ih r (hm r)

theorem calm_perform {tx : S.Transaction α} (h : Keeps Inv Grows tx) :
    Calm Inv Grows (Prog.perform tx) := by
  refine ⟨h, fun r => ?_⟩
  cases r <;> trivial

theorem calm_read {f : S.State → Except S.Error α} (hrefl : ∀ v : View S, Grows v v) :
    Calm Inv Grows (Prog.read f) := by
  refine calm_perform fun v tick b s hinv htx => ?_
  cases hf : f v.state with
  | ok a =>
      rw [hf] at htx
      cases htx
      exact ⟨hinv, hrefl v⟩
  | error e =>
      rw [hf] at htx
      cases htx

theorem calm_question (q : S.Query) : Calm Inv Grows (Prog.question q) := by
  intro r
  cases r <;> trivial

theorem calm_forEach {xs : List β} {body : β → Prog S Unit}
    (h : ∀ x ∈ xs, Calm Inv Grows (body x)) : Calm Inv Grows (Prog.forEach xs body) := by
  induction xs with
  | nil => trivial
  | cons x xs ih =>
      exact calm_bind (h x List.mem_cons_self) fun _ =>
        ih fun y hy => h y (List.mem_cons_of_mem x hy)

/-! ### Safe programs -/

variable (Inv Grows) in
/-- The program is good from every view. -/
def Safe {α : Type} (m : Prog S α) : Prop :=
  ∀ v, Sat Inv Grows (fun _ _ => True) (fun _ _ => True) m v

/-- A calm program needs to know nothing. -/
theorem Calm.safe (hanswers : Answerable Inv Grows) {m : Prog S α} (h : Calm Inv Grows m) :
    Safe Inv Grows m := by
  induction m with
  | pure a => exact fun _ => trivial
  | raise e => exact fun _ => trivial
  | call tx next ih =>
      intro v w _ hinv
      refine ⟨fun tick b s htx => ?_, fun tick e _ => ih _ (h.2 _) w⟩
      obtain ⟨hinv', hgrows'⟩ := h.1 w tick b s hinv htx
      exact ⟨hinv', hgrows', ih _ (h.2 _) _⟩
  | ask q next ih =>
      intro v w _ hinv answer
      obtain ⟨hinv', hgrows'⟩ := hanswers w q answer hinv
      exact ⟨hinv', hgrows', ih _ (h _) _⟩

theorem safe_pure (a : α) : Safe Inv Grows (pure a : Prog S α) := fun _ => trivial

theorem safe_throw (e : S.Error) : Safe Inv Grows (throw e : Prog S α) := fun _ => trivial

theorem safe_bind {m : Prog S α} {f : α → Prog S β} (hm : Safe Inv Grows m)
    (hf : ∀ a, Safe Inv Grows (f a)) : Safe Inv Grows (m >>= f) := fun v =>
  sat_bind ((hm v).mono (fun a w _ => hf a w) fun _ _ _ => trivial)

theorem safe_handle {m : Prog S α} {f : S.Error → Prog S α} (hm : Safe Inv Grows m)
    (hf : ∀ e, Safe Inv Grows (f e)) : Safe Inv Grows (tryCatch m f) := fun v =>
  sat_handle ((hm v).mono (fun _ _ _ => trivial) fun e w _ => hf e w)

theorem safe_forEach {xs : List β} {body : β → Prog S Unit}
    (h : ∀ x ∈ xs, Safe Inv Grows (body x)) : Safe Inv Grows (Prog.forEach xs body) := by
  induction xs with
  | nil => exact safe_pure ()
  | cons x xs ih =>
      exact safe_bind (h x List.mem_cons_self) fun _ =>
        ih fun y hy => h y (List.mem_cons_of_mem x hy)

/-- A prefix that may be followed from every view it ends in. -/
theorem sat_bind_safe {onOk : β → View S → Prop} {m : Prog S α} {f : α → Prog S β}
    (hm : Safe Inv Grows m) (hf : ∀ a w, Sat Inv Grows onOk (fun _ _ => True) (f a) w) :
    Sat Inv Grows onOk (fun _ _ => True) (m >>= f) v :=
  sat_bind ((hm v).mono (fun a w _ => hf a w) fun _ _ _ => trivial)

end

/-! ## The system of programs -/

/-- The shared view and the programs that have not ended. -/
structure Processes (S : Signature) where
  view : View S
  running : List (Prog S Unit)

/-- What may happen next; a program is stopped where its task is cancelled, and all of them when
the process of the operating system ends. -/
inductive Happening (S : Signature) (Req : Type) where
  | spawn (request : Req)
  | advance (i : Nat) (tick : S.Tick) (answer : Except S.Error S.Answer)
  | stop (i : Nat)
  | crash

namespace Processes

variable {S : Signature} {Req : Type} (program : Req → Prog S Unit)

/-- One action of a program. -/
def advanced (p : Processes S) (i : Nat) (tick : S.Tick) (answer : Except S.Error S.Answer) :
    Prog S Unit → Processes S
  | .pure _ | .raise _ => { p with running := p.running.eraseIdx i }
  | .call tx next =>
      match tx tick p.view.state with
      | .ok (b, s) =>
          { view := { p.view with state := s }, running := p.running.set i (next (.ok b)) }
      | .error e => { p with running := p.running.set i (next (.error e)) }
  | .ask q next => ⟨p.view.answered q answer, p.running.set i (next answer)⟩

def step (p : Processes S) : Happening S Req → Processes S
  | .spawn request => { p with running := p.running ++ [program request] }
  | .advance i tick answer =>
      match p.running[i]? with
      | some m => p.advanced i tick answer m
      | none => p
  | .stop i => { p with running := p.running.eraseIdx i }
  | .crash => { p with running := [] }

variable {program} {Inv : View S → Prop} {Grows : View S → View S → Prop}

/-- The invariant holds and every program that runs is good from here on. -/
structure Good (Inv : View S → Prop) (Grows : View S → View S → Prop) (p : Processes S) :
    Prop where
  inv : Inv p.view
  sat : ∀ m ∈ p.running, Sat Inv Grows (fun _ _ => True) (fun _ _ => True) m p.view

theorem good_set {p : Processes S} (htrans : ∀ u v w : View S, Grows u v → Grows v w → Grows u w)
    (h : Good Inv Grows p) {v : View S} (hinv : Inv v) (hgrows : Grows p.view v) {i : Nat}
    {m : Prog S Unit} (hm : Sat Inv Grows (fun _ _ => True) (fun _ _ => True) m v) :
    Good Inv Grows ⟨v, p.running.set i m⟩ := by
  refine ⟨hinv, fun x hx => ?_⟩
  rcases List.mem_or_eq_of_mem_set hx with hold | rfl
  · exact (h.sat x hold).waits htrans (fun _ _ _ _ _ => trivial) (fun _ _ _ _ _ => trivial) hgrows
  · exact hm

/-- Programs that are good from every view of the invariant stay good together. -/
theorem good_step (hrefl : ∀ v : View S, Grows v v)
    (htrans : ∀ u v w : View S, Grows u v → Grows v w → Grows u w)
    (hprogram : ∀ request, Safe Inv Grows (program request))
    {p : Processes S} (h : Good Inv Grows p) (e : Happening S Req) :
    Good Inv Grows (step program p e) := by
  cases e with
  | spawn request =>
      refine ⟨h.inv, fun m hm => ?_⟩
      rcases List.mem_append.mp hm with hold | hnew
      · exact h.sat m hold
      · obtain rfl := List.mem_singleton.mp hnew
        exact hprogram request p.view
  | advance i tick answer =>
      simp only [step]
      cases hi : p.running[i]? with
      | none => exact h
      | some m =>
          have hm := h.sat m (List.mem_of_getElem? hi)
          have herase : Good Inv Grows { p with running := p.running.eraseIdx i } :=
            ⟨h.inv, fun x hx => h.sat x (List.mem_of_mem_eraseIdx hx)⟩
          cases m with
          | pure a => exact herase
          | raise e => exact herase
          | call tx next =>
              obtain ⟨hcommit, hrollback⟩ := hm p.view (hrefl _) h.inv
              simp only [advanced]
              cases htx : tx tick p.view.state with
              | ok out =>
                  obtain ⟨b, s⟩ := out
                  obtain ⟨hinv, hgrows, hnext⟩ := hcommit tick b s htx
                  exact good_set htrans h hinv hgrows hnext
              | error e =>
                  exact good_set htrans h h.inv (hrefl _) (hrollback tick e htx)
          | ask q next =>
              obtain ⟨hinv, hgrows, hnext⟩ := hm p.view (hrefl _) h.inv answer
              exact good_set htrans h hinv hgrows hnext
  | stop i => exact ⟨h.inv, fun x hx => h.sat x (List.mem_of_mem_eraseIdx hx)⟩
  | crash => exact ⟨h.inv, fun x hx => absurd hx (List.not_mem_nil)⟩

/-- The invariant holds after every run. -/
theorem good_run (hrefl : ∀ v : View S, Grows v v)
    (htrans : ∀ u v w : View S, Grows u v → Grows v w → Grows u w)
    (hprogram : ∀ request, Safe Inv Grows (program request))
    {p : Processes S} (h : Good Inv Grows p) (es : List (Happening S Req)) :
    Inv (runFrom (step program) p es).view :=
  (runFrom_invariant (Good Inv Grows)
    (fun _ e hp => good_step hrefl htrans hprogram hp e) h es).inv

end Processes

end AutocadMcp
