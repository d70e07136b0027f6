/-
# Steps of a scenario

A scenario is a program over the facility, told step by step: objects are made under names, records
are made in every way there is, and steps may hold further steps, which run inside a scope with its
own sink, while a draft is open, or under a handler. A name belongs to one kind of object; making an
object under a name that is taken replaces the one that had it.

Key definitions: `Step`, `Action`, `FormatterPlan`, `SinkPlan`, `WriterPlan`, `ForwarderPlan`.
-/
import Logbook.Facility.Statement
import Logbook.Facility.Stream

namespace Logbook.Scenario

/-- A formatter that is to be made. The time sources come one after the other, the last one
counting. -/
structure FormatterPlan where
  layout : Layout
  /-- A clock of its own, set to a time and then stepped by a number of delta cycles. -/
  ownClock : Option (Nat × UInt64)
  /-- A time that stands still. -/
  fixed : Option Nat
  /-- A clock by its name. -/
  clock : Option String
  /-- A registry of its own with this length of a cycle. -/
  ownCycle : Option Nat
  /-- A registry by its name. -/
  registry : Option String

/-- A formatter with a layout and nothing else. -/
def FormatterPlan.ofLayout (x : Layout) : FormatterPlan := ⟨x, none, none, none, none, none⟩

/-- A sink that is to be made. -/
inductive SinkPlan where
  | memory
  | lines (formatter : FormatterPlan) (registry : Option String) (device : Buffer)
  /-- A sink that passes on the categories that start with a text. -/
  | events (registry : Option String) (beginning : Option String) (hook : Bool)
    (action : FatalAction)

/-- A writer that is to be made or taken. -/
inductive WriterPlan where
  | buffer (id : String) (device : Buffer)
  | forwarder (id : String)
  | discard
  | console

/-- A forwarder that is to be made. -/
structure ForwarderPlan where
  level : Level
  registry : Option String
  sink : Option String
  category : Option String

/-- What can be appended to a draft. -/
inductive Piece where
  | text (s : String)
  | integer (n : Int)
  | real (bits : UInt64)
  | flag (b : Bool)
  | level (l : Level)
  | severity (s : Severity)
  | verbosity (v : Verbosity)

/-- A piece as it is appended. -/
def Piece.said : Piece → String
  | .text s => s
  | .integer n => toString n
  | .real bits => (Binary64.ofBits bits).text
  | .flag b => Text.flagText b
  | .level l => l.name
  | .severity s => s.label
  | .verbosity v => v.text

/-- What can be done with an open draft. -/
inductive DraftAction where
  | append (p : Piece)
  | setCategory (category : Option String)
  | state
  | describe

/-- What can be done with a registry. -/
inductive RegistryAction where
  | setLevel (l : Level)
  | setCategoryLevel (category : String) (l : Level)
  | setCategoryVerbosity (category : String) (v : Verbosity)
  | clearCategory (category : String)
  | clearCategories
  | verbosityFor (category : Option String)
  | admits (r : Record)
  | enabled (s : Severity) (category : Option String) (v : Verbosity)
  | setCycleBase (period : Nat)
  | clearCycleBase
  | cycleBase

/-- What can be done with a clock. -/
inductive ClockAction where
  | read
  | set (t : Nat)
  | advance (t : Nat)
  | tick (times : Nat)

/-- What can be done with a sink by its name. -/
inductive SinkAction where
  | state
  | describe
  | drain
  /-- Takes the device out of a line sink, which ends it. -/
  | takeDevice

/-- What can be done with a forwarder by its name. -/
inductive ForwarderAction where
  | write (bs : List UInt8)
  | flush
  | describe
  | giveUp

/-- What can be done with a stream by its name. -/
inductive StreamAction where
  | write (bs : List UInt8)
  | writeAll (bs : List UInt8)
  | flush
  | describe
  /-- Exchanges the writer; the old one is kept under a name, or given up. -/
  | replaceWriter (w : WriterPlan) (save : Option String)

/-- What can be done with a redirection by its name. -/
inductive RedirectionAction where
  | reset
  | state
  | giveUp

/-- What can be done with a writer that was kept. -/
inductive SavedAction where
  | write (bs : List UInt8)
  | flush
  | giveUp
  /-- Puts the writer behind a stream again. -/
  | restore (stream : String)

/-- A step that holds no other steps. -/
inductive Action where
  /-- Works on an open draft, the given number of drafts further out than the innermost. -/
  | onDraft (up : Nat) (a : DraftAction)
  | statement (k : Statement) (category : Option String) (message : String)
  /-- Asserts something about a number; without a remark that it is three, else that it is more
  than five. -/
  | assertion (remark : Option String) (value : Int)
  | dispatch (r : Record)
  | report (sink : String) (r : Record)
  | carry (r : Record)
  | setGlobalSink (sink : Option String)
  | newRegistry (id : String) (l : Level)
  | onRegistry (id : Option String) (a : RegistryAction)
  | onClock (id : String) (a : ClockAction)
  | newSink (id : String) (p : SinkPlan)
  | onSink (id : String) (a : SinkAction)
  | newForwarder (id : String) (p : ForwarderPlan)
  | onForwarder (id : String) (a : ForwarderAction)
  | newStream (id : String) (w : WriterPlan)
  | onStream (id : String) (a : StreamAction)
  /-- Writes in three ways to a stream that ends with the step. -/
  | onOwnStream (w : WriterPlan) (bs : List UInt8)
  | redirect (id : String) (stream : String) (p : ForwarderPlan)
  | onRedirection (id : String) (a : RedirectionAction)
  | onSaved (id : String) (a : SavedAction)
  | install (s : Settings) (clock : Option String)
  | dropGuard

/-- A step of a scenario. -/
inductive Step where
  | act (a : Action)
  /-- Runs steps in a scope with its own sink. -/
  | within (sink : String) (steps : List Step)
  /-- Runs steps while a draft is open. -/
  | draft (s : Severity) (v : Verbosity) (site : Site) (sink : Option String) (steps : List Step)
  /-- Runs steps under a handler. -/
  | attempt (steps : List Step)
  /-- Raises a message. -/
  | fail (message : String)

end Logbook.Scenario
