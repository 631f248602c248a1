import RoleDiscovery.Log.Filter
import RoleDiscovery.Log.Line
import RoleDiscovery.Log.Place

/-!
# Setting up a log

A log goes to standard output and, if a directory is given, to a file in it as well. It is set up
once; a second attempt fails and leaves it as it is. Before it is set up nothing is written.

Results:

* `LogError`: why a log cannot be set up.
* `Logger.setUp`: sets up a log.
* `Logger.write`: what a log shows of an entry.
-/

namespace RoleDiscovery

/-- Why a log cannot be set up: its directory cannot be had, or there is a log already. -/
inductive LogError where
  | initRollingFileAppender (directory : String)
  | installSubscriber
  deriving DecidableEq

/-- The message of a failure. -/
def LogError.message : LogError → String
  | initRollingFileAppender directory =>
    "failed to initialize rolling file appender in " ++ Text.quotedPath directory
  | installSubscriber => "failed to install the global tracing subscriber"

/-! ## Loggers -/

/-- The settings of a log: the filter, the directory for its file, if any, and the name of the
program. -/
structure LogSettings where
  filter : String
  directory : Option String
  program : String

/-- The place of the log file, if there is a directory for it. -/
def LogSettings.place? (settings : LogSettings) : Option LogPlace :=
  settings.directory.map fun directory => ⟨directory, settings.program⟩

/-- A log: the filter of the one that is set up, what has been written, line by line in order, and
the name of the file in its directory that holds it as well. -/
structure Logger where
  filter : Option Filter := none
  lines : List String := []
  file : Option String := none

namespace Logger

/-- Writes what the filter shows of an entry. -/
def write (logger : Logger) (time : String) (entry : LogEntry) : Logger :=
  match logger.filter.bind (·.show? entry) with
  | some shown => { logger with lines := logger.lines ++ [shown.line time] }
  | none => logger

/-- The first entry of a log tells whether it has a file. -/
def firstEntry (directory : Option String) : LogEntry where
  spans := []
  event :=
    match directory with
    | some directory =>
      { level := .info
        target := "rbg_discovery::logging"
        message := "file logging enabled"
        fields := [("directory", .text directory)] }
    | none =>
      { level := .debug
        target := "rbg_discovery::logging"
        message := "file logging disabled, because no log directory set" }

/-- Sets up a log. -/
def setUp (settings : LogSettings) (time : String) (logger : Logger) :
    Except LogError Unit × Logger :=
  match settings.place?.filter fun place => !place.isWritable with
  | some place => (.error (.initRollingFileAppender place.directory), logger)
  | none =>
    if logger.filter.isSome then (.error .installSubscriber, logger)
    else
      let logger :=
        { logger with
          filter := some (Filter.ofText settings.filter)
          file := settings.place?.bind LogPlace.listedName? }
      (.ok (), logger.write time (firstEntry settings.directory))

end Logger

end RoleDiscovery
