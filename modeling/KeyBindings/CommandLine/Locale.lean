import KeyBindings.Host
import KeyBindings.Text.Pieces

/-!
# The locale of the host

The environment names a locale for each category of text, and a locale that the host does
not have is not taken. The name of a locale is a language, then perhaps `_` and a territory,
`.` and a codeset, `@` and a modifier. A territory or modifier for which there is no locale is
left out of account.
-/
namespace KeyBindings.CommandLine

/-- The variables that name the locale of one category. -/
def categoryVariables : List String :=
  ["LC_CTYPE", "LC_NUMERIC", "LC_TIME", "LC_COLLATE", "LC_MONETARY", "LC_MESSAGES", "LC_PAPER",
   "LC_NAME", "LC_ADDRESS", "LC_TELEPHONE", "LC_MEASUREMENT", "LC_IDENTIFICATION"]

/-- The locales that are there without being installed. -/
def plainLocales : List String := ["C", "POSIX"]

/-- How many octets the name of a locale may have. -/
def localeNameLimit : Nat := 255

/-- May a text name a locale? A name with slashes begins with one, and leads to no folder above
that of the locales. -/
def isLocaleName (name : String) : Bool :=
  let parts := Text.pieces ['/'] name.toList
  name.utf8ByteSize ≤ localeNameLimit &&
  (parts.length = 1 || parts.head? = some []) && !parts.contains ['.', '.']

/-- The language in the name of a locale, without slashes before it. -/
def languageOf (name : List Char) : List Char :=
  (name.takeWhile fun c => c ≠ '_' && c ≠ '.' && c ≠ '@').dropWhile (· = '/')

/-- The codeset in the name of a locale, which is empty when it is not named. -/
def codesetOf (name : List Char) : List Char :=
  match name.dropWhile fun c => c ≠ '.' && c ≠ '@' with
  | '.' :: rest => rest.takeWhile (· ≠ '@')
  | _ => []

/-- Does a character count in the name of a codeset? -/
def isCodesetChar (c : Char) : Bool := c.isAlphanum || ['_', '-', '.', ',', ':', '/'].contains c

/-- A codeset in capitals, with what counts in it. Slashes at its end do not. -/
def codesetSpelling (codeset : List Char) : List Char :=
  let spelling := (codeset.filter isCodesetChar).map Char.toUpper
  (spelling.reverse.dropWhile (· = '/')).reverse

/-- The spellings of the codeset that is installed, for the plain language only. -/
def installedCodesets : List String := ["UTF-8", "UTF8"]

def isInstalled (name : String) : Bool :=
  plainLocales.contains name ||
  (isLocaleName name && languageOf name.toList = ['C'] &&
    installedCodesets.contains (String.ofList (codesetSpelling (codesetOf name.toList))))

/-- The locale that the environment names for a category: one for all categories counts
most, then that of the category, then the general one. -/
def localeOf (host : Host) (category : String) : String :=
  let named := ["LC_ALL", category, "LANG"].filterMap fun name =>
    (host.valueOf? name).filter (· ≠ "")
  named.headD "C"

/-- Does the host have all locales that the environment names? -/
def hasLocale (host : Host) : Bool :=
  categoryVariables.all fun category => isInstalled (localeOf host category)

end KeyBindings.CommandLine
