/-
This file is about the text of tasks that run next to each other. A program performs one operation
after another and goes on with the answer, or it ends with a result or a failure. What an operation
does is left to the system, in which other tasks may take steps between any two operations.

A protocol says which operations a task may perform in a phase and which phases an answer can lead
to. That a program follows a protocol is a property of its text alone. A program that looks at a
part of the answers only is alike to itself under a relation between answers.
-/

namespace Kepler

/-- A program over operations with typed answers. -/
inductive Program {Operation : Type} (Reply : Operation → Type) (Failure Result : Type) where
  | done (result : Result)
  | fail (failure : Failure)
  | perform (operation : Operation) (next : Reply operation → Program Reply Failure Result)

namespace Program

variable {Operation : Type} {Reply : Operation → Type} {Failure : Type} {Result Other : Type}
  {operation : Operation}

def andThen (program : Program Reply Failure Result)
    (continuation : Result → Program Reply Failure Other) : Program Reply Failure Other :=
  match program with
  | done result => continuation result
  | fail failure => fail failure
  | perform operation next => perform operation fun reply => (next reply).andThen continuation

instance : Monad (Program Reply Failure) where
  pure := done
  bind := andThen

def call (operation : Operation) : Program Reply Failure (Reply operation) :=
  perform operation done

def attempt : Program Reply Failure Result → Program Reply Failure (Except Failure Result)
  | done result => done (.ok result)
  | fail failure => done (.error failure)
  | perform operation next => perform operation fun reply => (next reply).attempt

def evaluate (answer : (operation : Operation) → Reply operation) :
    Program Reply Failure Result → Except Failure Result
  | done result => .ok result
  | fail failure => .error failure
  | perform operation next => (next (answer operation)).evaluate answer

@[simp]
theorem evaluate_bind (answer : (operation : Operation) → Reply operation)
    (program : Program Reply Failure Result)
    (continuation : Result → Program Reply Failure Other) :
    (program >>= continuation).evaluate answer =
      (program.evaluate answer).bind fun result => (continuation result).evaluate answer := by
  induction program with
  | done | fail => rfl
  | perform operation next inductionHypothesis => exact inductionHypothesis _

theorem evaluate_bind_of_ok {answer : (operation : Operation) → Reply operation}
    {program : Program Reply Failure Result} {result : Result}
    (done : program.evaluate answer = .ok result)
    (continuation : Result → Program Reply Failure Other) :
    (program >>= continuation).evaluate answer = (continuation result).evaluate answer := by
  rw [evaluate_bind, done]
  rfl

/-- What is left of the program when its first operations are answered, as long as there is an
answer. -/
def resume (answer : (operation : Operation) → Option (Reply operation)) :
    Program Reply Failure Result → Program Reply Failure Result
  | done result => done result
  | fail failure => fail failure
  | perform operation next =>
    match answer operation with
    | some reply => (next reply).resume answer
    | none => perform operation next

/-! ### Answers that look alike -/

/-- The programs perform the same operations as long as the answers look alike, and come to the same
result or fail both. -/
inductive Alike (similar : (operation : Operation) → Reply operation → Reply operation → Prop) :
    Program Reply Failure Result → Program Reply Failure Result → Prop
  | done (result : Result) : Alike similar (done result) (done result)
  | fail (first second : Failure) : Alike similar (fail first) (fail second)
  | perform {operation : Operation} {first second : Reply operation → Program Reply Failure Result}
      (rest : ∀ reply other, similar operation reply other →
        Alike similar (first reply) (second other)) :
      Alike similar (perform operation first) (perform operation second)

section Alike

variable {similar : (operation : Operation) → Reply operation → Reply operation → Prop}
  {first second : Program Reply Failure Result}

theorem Alike.bind {continuation other : Result → Program Reply Failure Other}
    (alike : Alike similar first second)
    (rest : ∀ result, Alike similar (continuation result) (other result)) :
    Alike similar (first >>= continuation) (second >>= other) := by
  induction alike with
  | done result => exact rest result
  | fail => exact .fail ..
  | perform _ inductionHypothesis =>
    exact .perform fun reply answer same => inductionHypothesis reply answer same

theorem Alike.next {continuation : Reply operation → Program Reply Failure Result}
    {reply : Reply operation} (alike : Alike similar (Program.perform operation continuation)
      (Program.perform operation continuation)) (reflexive : similar operation reply reply) :
    Alike similar (continuation reply) (continuation reply) := by
  cases alike with
  | perform rest => exact rest reply reply reflexive

theorem alike_call_bind {continuation other : Reply operation → Program Reply Failure Result}
    (rest : ∀ reply answer, similar operation reply answer →
      Alike similar (continuation reply) (other answer)) :
    Alike similar (call operation >>= continuation) (call operation >>= other) :=
  .perform rest

/-- Answers that look alike lead to the same result. -/
theorem Alike.evaluate_eq_ok_iff {answer other : (operation : Operation) → Reply operation}
    (alike : Alike similar first second)
    (same : ∀ operation, similar operation (answer operation) (other operation)) (result : Result) :
    first.evaluate answer = .ok result ↔ second.evaluate other = .ok result := by
  induction alike with
  | done result => exact Iff.rfl
  | fail => exact iff_of_false nofun nofun
  | perform _ inductionHypothesis => exact inductionHypothesis _ _ (same _)

end Alike

/-! ### Protocols -/

/-- What a task may perform in a phase, and where an answer can lead. -/
structure Protocol (Reply : Operation → Type) (Phase : Type) where
  Allowed : Phase → Operation → Prop
  Next : Phase → (operation : Operation) → Reply operation → Phase → Prop

variable {Phase : Type} (protocol : Protocol Reply Phase)

/-- Every operation is allowed in the phase in which it is reached, and the end meets the
postcondition. -/
def Follows (post : Except Failure Result → Phase → Prop) :
    Program Reply Failure Result → Phase → Prop
  | done result, phase => post (.ok result) phase
  | fail failure, phase => post (.error failure) phase
  | perform operation next, phase => protocol.Allowed phase operation ∧
      ∀ reply following, protocol.Next phase operation reply following →
        Follows post (next reply) following

variable {protocol} {phase : Phase}

/-- Where the continuation of a program has to take over. -/
def Continue (protocol : Protocol Reply Phase) (post : Except Failure Other → Phase → Prop)
    (continuation : Result → Program Reply Failure Other) :
    Except Failure Result → Phase → Prop
  | .ok result, phase => Follows protocol post (continuation result) phase
  | .error failure, phase => post (.error failure) phase

variable {post : Except Failure Other → Phase → Prop} {program : Program Reply Failure Result}
  {continuation : Result → Program Reply Failure Other}
  {middle : Except Failure Result → Phase → Prop} {kind : Operation → Prop}

theorem follows_bind :
    Follows protocol post (program >>= continuation) phase ↔
      Follows protocol (Continue protocol post continuation) program phase := by
  change Follows protocol post (program.andThen continuation) phase ↔ _
  induction program generalizing phase with
  | done | fail => exact Iff.rfl
  | perform operation next inductionHypothesis =>
    simp only [andThen, Follows, inductionHypothesis]

theorem follows_attempt {post : Except Failure (Except Failure Result) → Phase → Prop} :
    Follows protocol post program.attempt phase ↔
      Follows protocol (fun outcome => post (.ok outcome)) program phase := by
  induction program generalizing phase with
  | done | fail => exact Iff.rfl
  | perform operation next inductionHypothesis =>
    simp only [attempt, Follows, inductionHypothesis]

theorem follows_call_bind {post : Except Failure Result → Phase → Prop}
    {continuation : Reply operation → Program Reply Failure Result}
    {Expected : Reply operation → Prop} {after : Reply operation → Phase}
    (allowed : protocol.Allowed phase operation)
    (leads : ∀ reply following, protocol.Next phase operation reply following →
      Expected reply ∧ following = after reply)
    (rest : ∀ reply, Expected reply → Follows protocol post (continuation reply) (after reply)) :
    Follows protocol post (call operation >>= continuation) phase := by
  refine ⟨allowed, fun reply following next => ?_⟩
  obtain ⟨expected, rfl⟩ := leads reply following next
  exact rest reply expected

theorem Follows.mono {strong weak : Except Failure Result → Phase → Prop}
    (implies : ∀ outcome phase, strong outcome phase → weak outcome phase)
    (follows : Follows protocol strong program phase) : Follows protocol weak program phase := by
  induction program generalizing phase with
  | done | fail => exact implies _ _ follows
  | perform operation next inductionHypothesis =>
    exact ⟨follows.1, fun reply following leads =>
      inductionHypothesis reply (follows.2 reply following leads)⟩

/-- The rule for one program after another, by what holds in between. -/
theorem follows_bind_of (first : Follows protocol middle program phase)
    (rest : ∀ result following, middle (.ok result) following →
      Follows protocol post (continuation result) following)
    (failed : ∀ failure following, middle (.error failure) following →
      post (.error failure) following) :
    Follows protocol post (program >>= continuation) phase := by
  refine follows_bind.mpr (first.mono fun outcome following holds => ?_)
  cases outcome with
  | ok result => exact rest result following holds
  | error failure => exact failed failure following holds

theorem follows_attempt_bind {continuation : Except Failure Result → Program Reply Failure Other}
    (first : Follows protocol middle program phase)
    (rest : ∀ outcome following, middle outcome following →
      Follows protocol post (continuation outcome) following) :
    Follows protocol post (program.attempt >>= continuation) phase :=
  follows_bind.mpr (follows_attempt.mpr (first.mono rest))

/-! ### Programs that a protocol ignores -/

/-- The program performs only operations of one kind, and it does not fail. -/
def Only (kind : Operation → Prop) : Program Reply Failure Result → Prop
  | done _ => True
  | fail _ => False
  | perform operation next => kind operation ∧ ∀ reply, (next reply).Only kind

theorem Only.bind (first : program.Only kind) (rest : ∀ result, (continuation result).Only kind) :
    (program >>= continuation).Only kind := by
  induction program with
  | done result => exact rest result
  | fail => exact first.elim
  | perform operation next inductionHypothesis =>
    exact ⟨first.1, fun reply => inductionHypothesis reply (first.2 reply)⟩

theorem Only.follows (only : program.Only kind)
    (ignored : ∀ operation, kind operation → protocol.Allowed phase operation ∧
      ∀ reply following, protocol.Next phase operation reply following → following = phase) :
    Follows protocol (fun outcome following => (∃ result, outcome = .ok result) ∧ following = phase)
      program phase := by
  induction program with
  | done result => exact ⟨⟨result, rfl⟩, rfl⟩
  | fail => exact only.elim
  | perform operation next inductionHypothesis =>
    refine ⟨(ignored operation only.1).1, fun reply following leads => ?_⟩
    rw [(ignored operation only.1).2 reply following leads]
    exact inductionHypothesis reply (only.2 reply)

end Program

end Kepler
