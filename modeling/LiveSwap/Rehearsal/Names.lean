import LiveSwap.Server.Plugin
/-!
The plugins, schedules and globals of a rehearsal: numbered types, and what they are called.
-/

namespace LiveSwap.Rehearsal

def pluginTypeName (slot : Nat) : String := "host::host::P<" ++ toString slot ++ ">"

def pluginId (slot : Nat) : PluginId := ⟨pluginTypeName slot⟩

def pluginLabel (slot : Nat) : String := "host::p" ++ toString slot

def pluginRelease (slot : Nat) : Release := ⟨UInt32.ofNat slot, 1, 2⟩

def scheduleId (n : Nat) : ScheduleId := ⟨"host::host::S<" ++ toString n ++ ">"⟩

def globalTypeName (n : Nat) : String := "host::host::G<" ++ toString n ++ ">"

end LiveSwap.Rehearsal
