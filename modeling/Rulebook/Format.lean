import Rulebook.Pattern.Plain

/-!
Named formats of text. Two of them ask for the absence of letters of one case; each of the others is
given by a plain pattern that the whole text has to match, and user names are besides not to hold
two separators in a row.
-/

namespace Rulebook

inductive Format where
  | email | url | domain | name | fullName | username | alpha | alphanumeric | phone | uuid
  | mongoId | date | dateOnly | time | lower | upper | ip
  deriving DecidableEq, Repr

namespace Format

def all : List Format :=
  [.email, .url, .domain, .name, .fullName, .username, .alpha, .alphanumeric, .phone, .uuid,
    .mongoId, .date, .dateOnly, .time, .lower, .upper, .ip]

def directive : Format → String
  | .email => "email"
  | .url => "url"
  | .domain => "domain"
  | .name => "name"
  | .fullName => "fullname"
  | .username => "username"
  | .alpha => "alpha"
  | .alphanumeric => "alphanumeric"
  | .phone => "phone"
  | .uuid => "uuid"
  | .mongoId => "mongoid"
  | .date => "date"
  | .dateOnly => "dateonly"
  | .time => "time"
  | .lower => "lower"
  | .upper => "upper"
  | .ip => "ip"

def ofDirective? (name : String) : Option Format :=
  all.find? fun format => format.directive = name

def demand : Format → String
  | .email => "must be a valid email"
  | .url => "must be a valid url"
  | .domain => "must be a valid domain"
  | .name => "must be a valid name"
  | .fullName => "must be a valid full name"
  | .username => "must be a valid username"
  | .alpha => "must be a valid alpha"
  | .alphanumeric => "must be a valid alphanumeric"
  | .phone => "must be a valid phone"
  | .uuid => "must be a valid uuid"
  | .mongoId => "must be a valid mongodb id"
  | .date | .dateOnly => "must be a valid date"
  | .time => "must be a valid time"
  | .lower => "must not contains upper case letters"
  | .upper => "must not contains lower case letters"
  | .ip => "must be a valid ip address"

/-! ### Sets of characters -/

def lowerLetters : CharSet := .range 'a' 'z'

def upperLetters : CharSet := .range 'A' 'Z'

def letters : CharSet := .union lowerLetters upperLetters

def digits : CharSet := .range '0' '9'

def alphanumerics : CharSet := .union letters digits

def blanks : CharSet := .property .blank

def alphanumericsAnd (others : List Char) : CharSet := .union alphanumerics (.ofList others)

/-! ### Building patterns -/

def char (c : Char) : Plain := .one (.single c)

def word (text : String) : Plain := Plain.sequence (text.toList.map char)

def optional (pattern : Plain) : Plain := .loop pattern 0 (some 1) true

def many (pattern : Plain) : Plain := .loop pattern 0 none true

def oneOrMore (pattern : Plain) : Plain := .loop pattern 1 none true

def times (count : Nat) (pattern : Plain) : Plain := .loop pattern count (some count) true

def between (least most : Nat) (pattern : Plain) : Plain := .loop pattern least (some most) true

def atLeast (least : Nat) (pattern : Plain) : Plain := .loop pattern least none true

/-! ### The patterns -/

/-- Addresses are matched without regard to case, so their characters are given in upper case and
taken with all variants. -/
def addressChars (marks : List Char) : CharSet :=
  .folded (.union (.union upperLetters digits) (.ofList marks))

def atomMarks : List Char := "_'%=+!\x60#~$*?^\x7b\x7d&|-".toList

def atomChars : CharSet := addressChars atomMarks

def hostChars : CharSet := addressChars ['-']

def emailPattern : Plain :=
  Plain.sequence
    [oneOrMore (.one atomChars), many (.seq (char '.') (oneOrMore (.one atomChars))), char '@',
      oneOrMore (.one hostChars), oneOrMore (.seq (char '.') (oneOrMore (.one hostChars)))]

def longHost : Plain :=
  Plain.sequence
    [.one alphanumerics, oneOrMore (.one (alphanumericsAnd ['-'])), .one alphanumerics, char '.',
      atLeast 2 (.one (.compl blanks))]

def shortHost : Plain :=
  Plain.sequence [oneOrMore (.one alphanumerics), char '.', atLeast 2 (.one (.compl blanks))]

def withScheme (host : Plain) : Plain :=
  Plain.sequence
    [word "http", optional (char 's'), word "://",
      .alt (.seq (word "www.") host) (.barred "www".toList host)]

def urlPattern : Plain :=
  Plain.choice
    [withScheme longHost, .seq (word "www.") longHost, withScheme shortHost,
      .seq (word "www.") shortHost]

def domainPattern : Plain :=
  Plain.sequence
    [.one alphanumerics, between 0 61 (.one (alphanumericsAnd ['_', '-'])),
      optional (.one alphanumerics), char '.',
      .alt (between 1 6 (.one letters))
        (Plain.sequence
          [between 1 30 (.one (alphanumericsAnd ['-'])), char '.', between 2 3 (.one letters)])]

def nameChars : CharSet := .union letters (.ofList [',', '.', '\'', '-'])

def namePattern : Plain :=
  .seq (oneOrMore (.one nameChars))
    (many (.seq (oneOrMore (.one blanks)) (oneOrMore (.one nameChars))))

def fullNamePattern : Plain :=
  Plain.sequence
    [atLeast 2 (.one letters), .one blanks, oneOrMore (.one letters), optional (char '\''),
      optional (char '-'), atLeast 2 (.one letters), optional (.one blanks),
      optional (oneOrMore (.one letters))]

def separators : List Char := ['_', '.']

def usernamePattern : Plain :=
  Plain.sequence
    [.one alphanumerics, between 6 18 (.one (alphanumericsAnd separators)), .one alphanumerics]

def doubleSeparator : Plain := times 2 (.one (.ofList separators))

def phonePattern : Plain :=
  Plain.sequence
    [optional (Plain.sequence [char '+', between 1 3 (.one digits), optional (.one blanks)]),
      optional (Plain.sequence [char '(', oneOrMore (.one digits), char ')']),
      oneOrMore (.seq (oneOrMore (.one digits)) (optional (.one blanks))),
      between 1 4 (.one digits)]

def uuidPattern : Plain :=
  Plain.sequence
    [times 8 (.one .hexDigits), char '-', times 4 (.one .hexDigits), char '-',
      times 4 (.one .hexDigits), char '-', times 4 (.one .hexDigits), char '-',
      times 12 (.one .hexDigits)]

def digit (first last : Char) : Plain := .one (.range first last)

def anyDigit : Plain := .one digits

def monthPattern : Plain :=
  .alt (.seq (char '0') (digit '1' '9')) (.seq (char '1') (digit '0' '2'))

def dayPattern : Plain :=
  Plain.choice
    [.seq (digit '1' '2') anyDigit, .seq (char '0') (digit '1' '9'),
      .seq (char '3') (digit '0' '1')]

def hourPattern : Plain :=
  .alt (.seq (digit '0' '1') anyDigit) (.seq (char '2') (digit '0' '3'))

def sixtiethPattern : Plain := .seq (digit '0' '5') anyDigit

def fractionPattern : Plain := optional (.seq (char '.') (between 1 4 anyDigit))

/-- A month and perhaps a day, or perhaps a day and a month; hyphens may be left out but before a
month that comes last. -/
def monthAndDayPattern : Plain :=
  .alt
    (Plain.sequence
      [optional (char '-'), monthPattern, optional (.seq (optional (char '-')) dayPattern)])
    (Plain.sequence [optional (.seq (optional (char '-')) dayPattern), char '-', monthPattern])

def datePattern : Plain :=
  Plain.sequence
    [times 4 anyDigit, monthAndDayPattern,
      optional
        (Plain.sequence
          [.one (.ofList ['T', ' ']), times 2 anyDigit, char ':', sixtiethPattern, char ':',
            sixtiethPattern, fractionPattern]),
      optional
        (.alt (char 'Z')
          (Plain.sequence
            [.one (.ofList ['+', '-']), hourPattern,
              optional (.seq (optional (char ':')) sixtiethPattern)]))]

def dateOnlyPattern : Plain :=
  Plain.sequence [times 4 anyDigit, char '-', monthPattern, char '-', dayPattern]

def timePattern : Plain :=
  Plain.sequence
    [hourPattern, char ':', sixtiethPattern, optional (.seq (char ':') sixtiethPattern),
      fractionPattern]

def octetPattern : Plain :=
  Plain.choice
    [Plain.sequence [char '2', char '5', digit '0' '5'],
      Plain.sequence [char '2', digit '0' '4', anyDigit],
      Plain.sequence [char '1', times 2 anyDigit],
      .seq (optional (digit '1' '9')) anyDigit]

def ipPattern : Plain :=
  .seq (times 3 (.seq octetPattern (char '.'))) octetPattern

/-- Whether a text has the format. The search for a URL, the only one that can step back, has no
limit here. Where the steps it may take back are limited, to exceed the limit counts as not having
the format; no text that a limit lets through is judged differently. -/
def accepts (text : List Char) : Format → Bool
  | .email => emailPattern.covers text
  | .url => urlPattern.covers text
  | .domain => domainPattern.covers text
  | .name => namePattern.covers text
  | .fullName => fullNamePattern.covers text
  | .username => usernamePattern.covers text && !doubleSeparator.occurs none text
  | .alpha => (oneOrMore (.one letters)).covers text
  | .alphanumeric => (oneOrMore (.one alphanumerics)).covers text
  | .phone => phonePattern.covers text
  | .uuid => uuidPattern.covers text
  | .mongoId => (times 24 (.one .hexDigits)).covers text
  | .date => datePattern.covers text
  | .dateOnly => dateOnlyPattern.covers text
  | .time => timePattern.covers text
  | .lower => !text.any Unicode.isUppercase
  | .upper => !text.any Unicode.isLowercase
  | .ip => ipPattern.covers text

end Format

end Rulebook
