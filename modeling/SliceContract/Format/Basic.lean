import SliceContract.Format.Calendar
import SliceContract.Format.Mail
import SliceContract.Format.Network
import SliceContract.HostName.Basic
import SliceContract.JsonSchema.Draft
import SliceContract.Pattern.Basic

/-!
# String formats

The named formats that a schema can ask of strings. A name that a draft does not define asks for
nothing.
-/

namespace SliceContract

inductive Format where
  | date
  | dateTime
  | duration
  | email
  | hostname
  | idnEmail
  | idnHostname
  | ipv4
  | ipv6
  | iri
  | iriReference
  | jsonPointer
  | pattern
  | relativeJsonPointer
  | time
  | uri
  | uriReference
  | uriTemplate
  | uuid
  deriving DecidableEq, Repr

namespace Format

def name : Format → String
  | date => "date"
  | dateTime => "date-time"
  | duration => "duration"
  | email => "email"
  | hostname => "hostname"
  | idnEmail => "idn-email"
  | idnHostname => "idn-hostname"
  | ipv4 => "ipv4"
  | ipv6 => "ipv6"
  | iri => "iri"
  | iriReference => "iri-reference"
  | jsonPointer => "json-pointer"
  | pattern => "regex"
  | relativeJsonPointer => "relative-json-pointer"
  | time => "time"
  | uri => "uri"
  | uriReference => "uri-reference"
  | uriTemplate => "uri-template"
  | uuid => "uuid"

/-- The first draft that defines the format. -/
def since : Format → Draft
  | duration | uuid => .draft201909
  | idnHostname | iri | iriReference | relativeJsonPointer => .draft7
  | jsonPointer | uriReference | uriTemplate => .draft6
  | _ => .draft4

def all : List Format :=
  [date, dateTime, duration, email, hostname, idnEmail, idnHostname, ipv4, ipv6, iri, iriReference,
    jsonPointer, pattern, relativeJsonPointer, time, uri, uriReference, uriTemplate, uuid]

/-- The format of a name under a draft. -/
def ofName? (draft : Draft) (name : String) : Option Format :=
  all.find? fun format => format.name = name && draft.atLeast format.since

/-- Every tilde is followed by a zero or a one. -/
def hasEscapedTildes : List Char → Bool
  | '~' :: c :: rest => (c = '0' || c = '1') && hasEscapedTildes rest
  | ['~'] => false
  | _ :: rest => hasEscapedTildes rest
  | [] => true

def isPointer (text : List Char) : Bool :=
  match text with
  | [] => true
  | '/' :: rest => hasEscapedTildes rest
  | _ => false

def isRelativePointer (text : List Char) : Bool :=
  let up := text.takeWhile Char.isDigit
  let rest := text.drop up.length
  !up.isEmpty && (up.length = 1 || up.head? ≠ some '0') && (rest = ['#'] || isPointer rest)

def isUuid (text : List Char) : Bool :=
  (text.splitOn '-').map List.length = [8, 4, 4, 4, 12] &&
    text.all fun c => c = '-' || Hex.isDigit c

/-- Whether a string has the format. -/
def accepts (format : Format) (s : String) : Bool :=
  let text := s.toList
  match format with
  | date => Calendar.isDate text
  | dateTime => Calendar.isDateTime text
  | duration => Calendar.isDuration text
  | email => Mail.isAddress HostName.isPlain text
  | hostname => HostName.isPlain text
  | idnEmail => Mail.isAddress HostName.isInternational text
  | idnHostname => HostName.isInternational text
  | ipv4 => Network.isIpv4 text
  | ipv6 => Network.isIpv6 text
  | iri => Network.isUri true text
  | iriReference => Network.isReference true text
  | jsonPointer => isPointer text
  | pattern => Pattern.isSpelled s
  | relativeJsonPointer => isRelativePointer text
  | time => Calendar.isTime text
  | uri => Network.isUri false text
  | uriReference => Network.isReference false text
  | uriTemplate => Network.isTemplate text
  | uuid => isUuid text

end Format

end SliceContract
