import GameLogs.Error
import GameLogs.Notice
namespace GameLogs

/-! Operations on a state that tell what they do and may stop.

An operation that stops keeps what it has changed and told so far.  Every way of putting operations
together is described by the outcome of running it.
-/

structure Outcome (State Result : Type) where
  result : Except Error Result
  state : State
  notices : List Notice

/-- Goes on with another operation, unless the first one has stopped. -/
def Outcome.andThen {State A B : Type} :
    Outcome State A → (A → State → Outcome State B) → Outcome State B
  | ⟨.error error, state, notices⟩, _ => ⟨.error error, state, notices⟩
  | ⟨.ok value, state, notices⟩, next =>
      let second := next value state
      ⟨second.result, second.state, notices ++ second.notices⟩

@[ext] structure Job (State Result : Type) where
  run : State → Outcome State Result

namespace Job

variable {State Inner A B C : Type}

protected def pure (value : A) : Job State A := ⟨fun state => ⟨.ok value, state, []⟩⟩

protected def bind (job : Job State A) (next : A → Job State B) : Job State B :=
  ⟨fun state => (job.run state).andThen fun value => (next value).run⟩

instance : Monad (Job State) where
  pure := Job.pure
  bind := Job.bind

def stop (error : Error) : Job State A := ⟨fun state => ⟨.error error, state, []⟩⟩

def tellAll (notices : List Notice) : Job State Unit := ⟨fun state => ⟨.ok (), state, notices⟩⟩

def tell (notice : Notice) : Job State Unit := tellAll [notice]

def get : Job State State := ⟨fun state => ⟨.ok state, state, []⟩⟩

def modify (change : State → State) : Job State Unit :=
  ⟨fun state => ⟨.ok (), change state, []⟩⟩

def set (state : State) : Job State Unit := modify fun _ => state

/-- Goes on with a value, or stops. -/
def ofExcept (result : Except Error A) : Job State A := ⟨fun state => ⟨result, state, []⟩⟩

/-- Goes on with what the store answers, or stops with its fault. -/
def ofStore (answer : Except Fault A) : Job State A := ofExcept (answer.mapError .store)

/-- Stops with a fault if there is one. -/
def stopOn : Option Fault → Job State Unit
  | none => pure ()
  | some fault => stop (.store fault)

def attempt (job : Job State A) : Job State (Except Error A) :=
  ⟨fun state =>
    let outcome := job.run state
    ⟨.ok outcome.result, outcome.state, outcome.notices⟩⟩

/-- Does something in any case after an operation, which ends as it did. -/
def andFinally (job : Job State A) (last : Job State Unit) : Job State A := do
  let result ← job.attempt
  last
  ofExcept result

/-- Does an operation on a part of the state. -/
def within (part : State → Inner) (replace : Inner → State → State) (job : Job Inner A) :
    Job State A :=
  ⟨fun state =>
    let outcome := job.run (part state)
    ⟨outcome.result, replace outcome.state state, outcome.notices⟩⟩

variable {state : State}

@[simp] theorem run_pure (value : A) : (pure value : Job State A).run state = ⟨.ok value, state, []⟩ := rfl

@[simp] theorem run_bind (job : Job State A) (next : A → Job State B) :
    (job >>= next).run state = (job.run state).andThen fun value => (next value).run := rfl

@[simp] theorem run_map (change : A → B) (job : Job State A) :
    (change <$> job).run state =
      (job.run state).andThen fun value state => ⟨.ok (change value), state, []⟩ := rfl

@[simp] theorem run_stop (error : Error) :
    (stop error : Job State A).run state = ⟨.error error, state, []⟩ := rfl

@[simp] theorem run_tellAll (notices : List Notice) :
    (tellAll notices).run state = ⟨.ok (), state, notices⟩ := rfl

@[simp] theorem run_tell (notice : Notice) : (tell notice).run state = ⟨.ok (), state, [notice]⟩ := rfl

@[simp] theorem run_get : (get : Job State State).run state = ⟨.ok state, state, []⟩ := rfl

@[simp] theorem run_modify (change : State → State) :
    (modify change).run state = ⟨.ok (), change state, []⟩ := rfl

@[simp] theorem run_set (other : State) : (set other).run state = ⟨.ok (), other, []⟩ := rfl

@[simp] theorem run_ofExcept (result : Except Error A) :
    (ofExcept result).run state = ⟨result, state, []⟩ := rfl

@[simp] theorem run_ofStore_ok (value : A) :
    (ofStore (.ok value)).run state = ⟨.ok value, state, []⟩ := rfl

@[simp] theorem run_ofStore_error (fault : Fault) :
    (ofStore (.error fault) : Job State A).run state = ⟨.error (.store fault), state, []⟩ := rfl

@[simp] theorem run_stopOn_none : (stopOn none).run state = ⟨.ok (), state, []⟩ := rfl

@[simp] theorem run_stopOn_some (fault : Fault) :
    (stopOn (some fault)).run state = ⟨.error (.store fault), state, []⟩ := rfl

@[simp] theorem run_attempt (job : Job State A) :
    job.attempt.run state =
      ⟨.ok (job.run state).result, (job.run state).state, (job.run state).notices⟩ := rfl

@[simp] theorem run_within (part : State → Inner) (replace : Inner → State → State) (job : Job Inner A) :
    (job.within part replace).run state =
      ⟨(job.run (part state)).result, replace (job.run (part state)).state state,
        (job.run (part state)).notices⟩ := rfl

/-- An operation that leaves a state related to the one before, also when it stops. -/
def Respects (related : State → State → Prop) (job : Job State A) : Prop :=
  ∀ state, related state (job.run state).state

theorem Respects.bind {related : State → State → Prop} {job : Job State A} {next : A → Job State B}
    (transitive : ∀ first second third, related first second → related second third → related first third)
    (first : job.Respects related) (second : ∀ value, (next value).Respects related) :
    (job >>= next).Respects related := by
  intro state
  have moved := first state
  rw [run_bind]
  rcases ended : job.run state with ⟨error | value, middle, notices⟩
  · rw [ended] at moved
    exact moved
  · rw [ended] at moved
    exact transitive _ _ _ moved (second value middle)

/-- An operation that leaves the state as it is, also when it stops. -/
def ReadsOnly (job : Job State A) : Prop := job.Respects fun before after => after = before

theorem ReadsOnly.respects {related : State → State → Prop} {job : Job State A}
    (unchanged : job.ReadsOnly) (reflexive : ∀ state, related state state) : job.Respects related := by
  intro state
  rw [unchanged state]
  exact reflexive state

theorem readsOnly_pure (value : A) : (pure value : Job State A).ReadsOnly := fun _ => rfl

theorem readsOnly_get : (get : Job State State).ReadsOnly := fun _ => rfl

theorem readsOnly_tellAll (notices : List Notice) : (tellAll notices : Job State Unit).ReadsOnly := fun _ => rfl

theorem readsOnly_stop (error : Error) : (stop error : Job State A).ReadsOnly := fun _ => rfl

theorem readsOnly_ofExcept (result : Except Error A) : (ofExcept result : Job State A).ReadsOnly := fun _ => rfl

theorem ReadsOnly.bind {job : Job State A} {next : A → Job State B} (first : job.ReadsOnly)
    (second : ∀ value, (next value).ReadsOnly) : (job >>= next).ReadsOnly :=
  Respects.bind (fun _ _ _ earlier later => later.trans earlier) first second

theorem pure_bind (value : A) (next : A → Job State B) :
    Job.bind (Job.pure value) next = next value := by
  ext1; funext state
  simp [Job.bind, Job.pure, Outcome.andThen]

theorem bind_pure (job : Job State A) : Job.bind job Job.pure = job := by
  ext1; funext state
  rcases ended : job.run state with ⟨_ | _, _, _⟩ <;>
    simp [Job.bind, Job.pure, Outcome.andThen, ended]

theorem bind_assoc (job : Job State A) (next : A → Job State B) (last : B → Job State C) :
    Job.bind (Job.bind job next) last = Job.bind job fun value => Job.bind (next value) last := by
  ext1; funext state
  rcases first : job.run state with ⟨error | value, middle, notices⟩
  · simp [Job.bind, Outcome.andThen, first]
  · rcases second : (next value).run middle with ⟨_ | _, _, _⟩ <;>
      simp [Job.bind, Outcome.andThen, first, second]

instance : LawfulMonad (Job State) := LawfulMonad.mk' (Job State)
  (fun job => bind_pure job) (fun value next => pure_bind value next)
  (fun job next last => bind_assoc job next last)

theorem run_bind_of_ok {job : Job State A} {next : A → Job State B} {value : A}
    {middle after : State} {notices others : List Notice} {result : Except Error B}
    (first : job.run state = ⟨.ok value, middle, notices⟩)
    (second : (next value).run middle = ⟨result, after, others⟩) :
    (job >>= next).run state = ⟨result, after, notices ++ others⟩ := by
  simp only [run_bind, first, Outcome.andThen, second]

theorem run_bind_of_error {job : Job State A} {next : A → Job State B} {error : Error} {after : State}
    {notices : List Notice} (failed : job.run state = ⟨.error error, after, notices⟩) :
    (job >>= next).run state = ⟨.error error, after, notices⟩ := by
  simp only [run_bind, failed, Outcome.andThen]

theorem run_bind_of_silent {job : Job State A} {next : A → Job State B} {value : A}
    {middle after : State} {notices : List Notice} {result : Except Error B}
    (first : job.run state = ⟨.ok value, middle, []⟩)
    (second : (next value).run middle = ⟨result, after, notices⟩) :
    (job >>= next).run state = ⟨result, after, notices⟩ :=
  run_bind_of_ok first second

theorem run_bind_pure_of_ok {job : Job State A} {value : A} {after : State} {notices : List Notice}
    (change : A → B) (first : job.run state = ⟨.ok value, after, notices⟩) :
    (do let value ← job; pure (change value) : Job State B).run state =
      ⟨.ok (change value), after, notices⟩ := by
  simp [first, Outcome.andThen]

theorem run_tellAll_pure (notices : List Notice) (value : A) :
    (do tellAll notices; pure value : Job State A).run state = ⟨.ok value, state, notices⟩ := by
  simp [Outcome.andThen]

/-- The first of several operations that fails ends them all. -/
theorem run_mapM_of_error {earlier later : List A} {element : A} {job : A → Job State B} {values : List B}
    {error : Error} {middle after : State} {notices others : List Notice}
    (first : (earlier.mapM job).run state = ⟨.ok values, middle, notices⟩)
    (failed : (job element).run middle = ⟨.error error, after, others⟩) :
    ((earlier ++ element :: later).mapM job).run state = ⟨.error error, after, notices ++ others⟩ := by
  rw [List.mapM_append, List.mapM_cons]
  exact run_bind_of_ok first (run_bind_of_error (run_bind_of_error failed))

theorem ReadsOnly.mapM {elements : List A} {job : A → Job State B}
    (each : ∀ element, (job element).ReadsOnly) : (elements.mapM job).ReadsOnly := by
  induction elements with
  | nil => exact readsOnly_pure []
  | cons element rest ih =>
      rw [List.mapM_cons]
      exact (each element).bind fun _ => ih.bind fun _ => readsOnly_pure _

/-- What comes last is done on the state that the operation leaves, and does not change its end. -/
theorem run_andFinally (job : Job State A) (change : State → State) :
    (job.andFinally (modify change)).run state =
      ⟨(job.run state).result, change (job.run state).state, (job.run state).notices⟩ := by
  simp [andFinally, Outcome.andThen]

end Job
end GameLogs
