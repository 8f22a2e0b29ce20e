import Assessment.Extension
import Assessment.Options
import Assessment.Random.Source

/-!
# Environments

What the evaluation of expressions draws from and writes to: a random source and a log. Every pass
over a list of rules has an environment of its own, so that a pass depends on the seed of its
session and on its number only.
-/

namespace Assessment

/-- A random source and a log. -/
structure Environment where
  /-- Where random numbers come from. -/
  random : RandomSource
  /-- Where notifications go to. -/
  log : NotificationLog

/-- The extensions and the options that hold for all sessions. -/
structure Engine where
  /-- The extensions. -/
  registry : Registry
  /-- The options. -/
  options : Options

/-- The seed of a pass of a session. The multiplier is odd, so that no two passes share a seed. -/
def passSeed (sessionSeed pass : UInt64) : UInt64 := sessionSeed ^^^ (pass * 0x9E3779B97F4A7C15)

namespace Environment

/-- The environment of a seed. -/
def ofSeed (seed : UInt64) (level : Level) : Environment := ⟨.ofSeed seed, .empty level⟩

/-- The environment of a pass of a session. -/
def forPass (sessionSeed pass : UInt64) (level : Level) : Environment :=
  ofSeed (passSeed sessionSeed pass) level

/-- Record a notification. -/
def record (environment : Environment) (notification : Notification) : Environment :=
  { environment with log := environment.log.record notification }

end Environment

/-- A step that may fail and that changes a state. What was changed before a failure stays
changed. -/
abbrev Action (σ ε : Type) : Type → Type := ExceptT ε (StateM σ)

namespace Action

variable {σ τ ε α : Type}

/-- The step that has a result and changes nothing. -/
def ofExcept (result : Except ε α) : Action σ ε α := ExceptT.mk (pure result)

/-- A step on a part of the state. -/
def within (read : σ → τ) (write : τ → σ → σ) (inner : Action τ ε α) : Action σ ε α :=
  ExceptT.mk fun state =>
    let (result, part) := inner.run.run (read state)
    (result, write part state)

/-- The same step, with its failures named otherwise. -/
def rename {δ : Type} (f : ε → δ) (inner : Action σ ε α) : Action σ δ α :=
  ExceptT.mk fun state =>
    match inner.run.run state with
    | (.ok result, state) => (.ok result, state)
    | (.error error, state) => (.error (f error), state)

end Action

end Assessment
