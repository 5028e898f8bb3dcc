/-!
# Usage and help

The command line has three pages: one for the tool as a whole and one for each command. A page has a
usage text, which precedes every complaint about arguments, and a help text.
-/

set_option autoImplicit false

namespace DocletPreflight

/-- The pages of the command line. -/
inductive Page where
  | top
  | check
  | filter
  deriving DecidableEq, Repr

namespace Page

/-- The words that a page is called up by. -/
def program : Page → String
  | top => "xmldoclet"
  | check => "xmldoclet check"
  | filter => "xmldoclet filter"

def usage : Page → String
  | top => "usage: xmldoclet [-h] [-v] [--log-file LOG_FILE] \x7bcheck,filter\x7d ...\n"
  | check => "usage: xmldoclet check [-h] [-v] [--log-file LOG_FILE]\n"
  | filter => "usage: xmldoclet filter [-h] [-v] [--log-file LOG_FILE] --model MODEL\n"

/-- What the tool does and which commands it has. -/
def overview : String :=
  "\nValidate XML doclet options and preview class filters.\n" ++
  "\npositional arguments:\n" ++
  "  \x7bcheck,filter\x7d\n" ++
  "    check              Validate doclet options and print the resulting\n" ++
  "                       configuration.\n" ++
  "    filter             List the classes of a YAML class listing accepted by\n" ++
  "                       the filters.\n"

def sharedOptions : String :=
  "\noptions:\n" ++
  "  -h, --help           show this help message and exit\n" ++
  "  -v, --verbose        Increase log verbosity for troubleshooting.\n" ++
  "  --log-file LOG_FILE  Also write diagnostics to this file.\n"

def modelOption : String :=
  "  --model MODEL        YAML file describing the classes to filter.\n"

def closing : String :=
  "\nDoclet options follow a literal '--', for example: xmldoclet check -- -d out\n" ++
  "-multiple -extends com.example.Base\n"

def help (page : Page) : String :=
  page.usage ++
    (match page with
      | top => overview ++ sharedOptions
      | check => sharedOptions
      | filter => sharedOptions ++ modelOption) ++
    closing

end Page

end DocletPreflight
