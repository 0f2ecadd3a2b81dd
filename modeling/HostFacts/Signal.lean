import HostFacts.Property.Source
import HostFacts.Text.Search

/-!
# Signals

A `Signal` tells whether the host has some trait by testing properties: first its override property,
then its other properties in order. The first match decides, and nothing further is read. The test
is any predicate on the value of a property, which may be absent; a word stands for the test whether
the value holds it.
-/

namespace HostFacts

open HostFacts.Text

/-- Whether a value holds a word, whatever the case; an absent or empty value holds none. -/
def matchesWord (word : String) : Option String → Bool
  | none => false
  | some "" => false
  | some value => occurs (lower word.toList) (lower (trim value.toList))

/-- A test of the value of a property. -/
def Matcher : Type := Option String → Bool

/-- A word is a test: whether the value holds it. -/
instance : Coe String Matcher := ⟨matchesWord⟩

/-- How a trait of the host is detected. -/
structure Signal where
  name : String
  overrideProperty : String
  properties : List String
  matcher : Matcher

namespace Signal

/-- Tests properties one after the other. -/
def search (signal : Signal) (source : Source) : List String → Act World Bool
  | [] => do
    logLine .debug .flags s!"{signal.name} not detected"
    return false
  | property :: rest => do
    if signal.matcher (← source.lookup property) then
      logLine .debug .flags s!"{signal.name} detected from {property}"
      return true
    else signal.search source rest

/-- Detects the trait. -/
def detect (signal : Signal) (source : Source) : Act World Bool := do
  if signal.matcher (← source.lookup signal.overrideProperty) then
    logLine .debug .flags s!"{signal.name} enabled by {signal.overrideProperty}"
    return true
  else signal.search source signal.properties

/-- A constrained mobile runtime. -/
def constrainedRuntime : Signal :=
  ⟨"constrained-runtime", Property.constrainedRuntime,
   [Property.osPlatform, Property.osRelease, Property.osVersion, Property.runtimeBuild], "android"⟩

/-- An alternate machine that runs the program. -/
def alternateVm : Signal :=
  ⟨"alternate-vm", Property.alternateVm,
   [Property.runtimeName, Property.runtimeVmName, Property.runtimeBuild], "pypy"⟩

end Signal

end HostFacts
