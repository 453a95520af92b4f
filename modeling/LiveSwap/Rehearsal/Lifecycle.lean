import LiveSwap.Rehearsal.Names
import LiveSwap.Server.Run
/-!
Rehearsing server lifecycles.

Plugins are written down as lists of actions, one list per lifecycle method. Every call is entered in a
journal, and so is the reply to every action.
-/

namespace LiveSwap.Rehearsal

/-- What a server answers to an action. -/
inductive Reply where
  | nothing
  | ok
  | flag (b : Bool)
  | number (n : Int)
  | panic (text : String)
  deriving DecidableEq, Repr

/-- Who wrote a journal line: a tag, or the number of a plugin type. -/
inductive Author where
  | tag (s : String)
  | slot (n : Nat)
  deriving DecidableEq, Repr

inductive JournalLine where
  /-- A lifecycle method was called. -/
  | called (author : Author) (phase : Phase)
  /-- An action was answered. -/
  | did (author : Author) (reply : Reply)
  deriving DecidableEq, Repr

/-- The state outside the server: the journal since it was last read, and the reply to the last request. -/
structure Notebook where
  journal : List JournalLine
  reply : Reply

abbrev LifecyclePlugin := Plugin Nat (fun _ => Int) Notebook
abbrev LifecycleScript := Script Nat (fun _ => Int) Notebook
abbrev LifecycleAct := ServerAct Nat (fun _ => Int) Notebook

mutual

/-- One request to the server. -/
inductive Action where
  | add (plugin : PluginPlan)
  /-- Adds plugins with one call. -/
  | group (plugins : List PluginPlan)
  | finish
  | tick (schedule : Nat)
  | cleanup
  | built
  | insert (global : Nat) (value : Int)
  | get (global : Nat)
  | contains (global : Nat)
  | panic (message : String)

/-- A plugin as written down. -/
inductive PluginPlan where
  | mk (slot : Nat) (tag : Option String) (info : PluginInfo) (build ready update cleanup : List Action)

end

instance : Inhabited Action := ⟨.finish⟩

instance : Inhabited PluginPlan := ⟨.mk 0 none ⟨⟨""⟩, "", ⟨0, 0, 0⟩, "", [], true, []⟩ [] [] [] []⟩

/-- The declarations of a plugin of a slot. -/
def planInfo (slot : Nat) (name : Option String) (deps : List Nat) (isUnique : Bool)
    (schedules : List Nat) : PluginInfo where
  id := pluginId slot
  label := pluginLabel slot
  version := pluginRelease slot
  name := name.getD (pluginTypeName slot)
  dependencies := deps.map pluginId
  isUnique := isUnique
  schedules := schedules.map scheduleId

/-- Enters a line in the journal. -/
def note (line : JournalLine) : Effect Notebook Unit :=
  modify fun b => { b with journal := b.journal ++ [line] }

/-- An optional number as a reply. -/
def Reply.ofOption : Option Int → Reply
  | none => .nothing
  | some n => .number n

mutual

/-- The script of one action, followed by whatever its reply leads to. -/
def Action.script : Action → (Reply → LifecycleScript) → LifecycleScript
  | .add plugin, next => .add plugin.plugin (next .ok)
  | .group plugins, next => addAll plugins (next .ok)
  | .finish, next => .finish (next .ok)
  | .tick schedule, next => .tick (scheduleId schedule) (next .ok)
  | .cleanup, next => .cleanup (next .ok)
  | .built, next => .isBuilt fun b => next (.flag b)
  | .insert global value, next => .publish global value fun replaced => next (.ofOption replaced)
  | .get global, next => .lookUp global fun value => next (.ofOption value)
  | .contains global, next => .lookUp global fun value => next (.flag value.isSome)
  | .panic message, _ => .panic (.text message)

/-- Adds plugins in order. -/
def addAll : List PluginPlan → LifecycleScript → LifecycleScript
  | [], next => next
  | plugin :: plugins, next => .add plugin.plugin (addAll plugins next)

/-- The script of a lifecycle method: each action, with its reply entered in the journal. -/
def scriptOf (author : Author) : List Action → LifecycleScript
  | [] => .done
  | action :: actions =>
    action.script fun reply => .perform (note (.did author reply)) (scriptOf author actions)

/-- The plugin that was written down. -/
def PluginPlan.plugin : PluginPlan → LifecyclePlugin
  | .mk slot tag info build ready update cleanup =>
    let author := match tag with
      | some tag => Author.tag tag
      | none => Author.slot slot
    let method (phase : Phase) (script : LifecycleScript) : LifecycleScript :=
      .perform (note (.called author phase)) script
    .mk info (method .build (scriptOf author build)) (method .ready (scriptOf author ready))
      (method .cleanup (scriptOf author cleanup))
      fun schedule => method (.update schedule) (scriptOf author update)

end

/-- How deep the calls of a rehearsal may nest. -/
def lifecycleDepth : Nat := 100000

/-- Runs one action on the server and reads the reply and the journal. -/
def stepLifecycle (action : Action) (h : Hosting Nat (fun _ => Int) Notebook) :
    (Reply × List JournalLine) × Hosting Nat (fun _ => Int) Notebook :=
  let script := action.script fun reply => .perform (modify fun b => { b with reply }) .done
  let (result, h) := (ServerAct.run lifecycleDepth script).runOn h
  let reply := match result with
    | .ok () => h.outside.reply
    | .error (.panic payload) => .panic payload.message
    | .error _ => .nothing
  ((reply, h.outside.journal), { h with outside := ⟨[], .nothing⟩ })

/-- Runs a whole rehearsal on a fresh server. -/
def runLifecycle (actions : List Action) : List (Reply × List JournalLine) :=
  go actions ⟨Server.empty, ⟨[], .nothing⟩⟩
where
  go : List Action → Hosting Nat (fun _ => Int) Notebook → List (Reply × List JournalLine)
    | [], _ => []
    | action :: actions, h =>
      let (entry, h) := stepLifecycle action h
      entry :: go actions h

end LiveSwap.Rehearsal
