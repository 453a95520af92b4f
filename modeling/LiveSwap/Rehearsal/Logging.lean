import LiveSwap.Tracing.Plugin
/-!
Rehearsing the log setup in a process where logging was set up before.
-/

namespace LiveSwap.Rehearsal

open Tracing (Config Setup)

/-- What a server with the plugin showed. -/
structure LoggingTour where
  /-- Whether the configuration was published before the server was finished. -/
  publishedBefore : Bool
  published : Option Config
  finishLog : List Event
  cleanupLog : List Event

/-- Adds the plugin with the given settings to a fresh server, finishes it and cleans it up. -/
def rehearseLogging (level : Option Level) (format : Option Tracing.Format) (filter : Option String)
    (spanEvents : Option Bool) : LoggingTour :=
  let setup := Setup.standard
  let setup := level.elim setup setup.withLevel
  let setup := format.elim setup setup.withFormat
  let setup := filter.elim setup setup.withFilter
  let setup := spanEvents.elim setup setup.withSpanEvents
  let run (script : Script Unit (fun _ => Config) Setup.Journal) h := ((ServerAct.run 100 script).runOn h).2
  let added := run (.add setup.plugin .done) ⟨Server.empty, ⟨[], true⟩⟩
  let finished := run (.finish .done) added
  let cleaned := run (.cleanup .done) { finished with outside := ⟨[], finished.outside.installed⟩ }
  { publishedBefore := added.server.globals.contains ()
    published := finished.server.globals.get? ()
    finishLog := finished.outside.events
    cleanupLog := cleaned.outside.events }

end LiveSwap.Rehearsal
