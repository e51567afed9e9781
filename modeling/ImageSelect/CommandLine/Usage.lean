/-!
# Options and their help

The options of the command line, how they are spelled, and the texts that
explain them.
-/

namespace ImageSelect.CommandLine

/-- The name of the program. -/
def programName : String := "imageset"

/-- The options. -/
inductive OptionName where
  | help
  | urlList
  | candidate
  | seriesCount
  | frameCount
  | output
  | noProgress
  | logLevel
  | logFile
  deriving Repr, DecidableEq

namespace OptionName

/-- All spellings of options, in the order in which they are listed. -/
def spellings : List (String × OptionName) :=
  [("-h", .help), ("--help", .help), ("--url-list", .urlList), ("--candidate", .candidate),
    ("--series-count", .seriesCount), ("--frame-count", .frameCount), ("--output", .output),
    ("--no-progress", .noProgress), ("--log-level", .logLevel), ("--log-file", .logFile)]

/-- The spellings of one option. -/
def ownSpellings (o : OptionName) : List String :=
  (spellings.filter fun s => s.2 = o).map (·.1)

/-- The name of an option in messages. -/
def shown (o : OptionName) : String :=
  String.intercalate "/" o.ownSpellings

/-- Whether an option has a value. -/
def takesValue : OptionName → Bool
  | .help | .noProgress => false
  | _ => true

end OptionName

/-- The names of candidates. -/
def candidateNames : List String := ["file", "plane"]

/-- The names of log levels. -/
def levelNames : List String := ["DEBUG", "INFO", "WARNING", "ERROR", "CRITICAL"]

/-- How the program is called. -/
def usage : String :=
  "usage: imageset [-h] [--url-list URL_LIST] [--candidate \x7bfile,plane\x7d]\n" ++
  "                [--series-count SERIES_COUNT] [--frame-count FRAME_COUNT]\n" ++
  "                [--output OUTPUT] [--no-progress]\n" ++
  "                [--log-level \x7bDEBUG,INFO,WARNING,ERROR,CRITICAL\x7d]\n" ++
  "                [--log-file LOG_FILE]\n" ++
  "                expression [inputs ...]\n"

/-- What the program and its options do. -/
def help : String :=
  usage ++
  "\n" ++
  "Select image files or planes with a filter expression and print their metadata\n" ++
  "\n" ++
  "positional arguments:\n" ++
  "  expression            Filter expression, e.g. 'and (file does endwith\n" ++
  "                        \".tif\") (series does eq \"0\")'\n" ++
  "  inputs                Image file paths or URLs to consider\n" ++
  "\n" ++
  "options:\n" ++
  "  -h, --help            show this help message and exit\n" ++
  "  --url-list URL_LIST   Text file with one path or URL per line\n" ++
  "  --candidate \x7bfile,plane\x7d\n" ++
  "                        Filter whole files or individual planes\n" ++
  "  --series-count SERIES_COUNT\n" ++
  "                        Number of series per file when filtering planes\n" ++
  "  --frame-count FRAME_COUNT\n" ++
  "                        Number of frames per series when filtering planes\n" ++
  "  --output OUTPUT       Write tab-separated results here instead of stdout\n" ++
  "  --no-progress         Hide the progress bar\n" ++
  "  --log-level \x7bDEBUG,INFO,WARNING,ERROR,CRITICAL\x7d\n" ++
  "                        Set the logging level\n" ++
  "  --log-file LOG_FILE   Path to the log file\n"

end ImageSelect.CommandLine
