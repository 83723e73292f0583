/-!
# Flags

The flags of the command line: the two spellings of each, whether a value belongs to it, and which two exclude each
other.
-/

namespace AckDesk

/-- A flag of the command line. -/
inductive Flag where
  | baseUrl
  | readOnly
  | writable
  | notifyFailures
  | noticeCapacity
  | enableLogging
  | help
  | version
deriving DecidableEq

namespace Flag

def all : List Flag :=
  [.baseUrl, .readOnly, .writable, .notifyFailures, .noticeCapacity, .enableLogging, .help, .version]

/-- The name after two hyphens. -/
def longName : Flag → String
  | baseUrl => "base-url"
  | readOnly => "read-only"
  | writable => "writable"
  | notifyFailures => "notify-failures"
  | noticeCapacity => "notice-capacity"
  | enableLogging => "enable-logging"
  | help => "help"
  | version => "version"

/-- The letter after one hyphen. -/
def letter? : Flag → Option Char
  | baseUrl => some 'u'
  | readOnly => some 'r'
  | writable => some 'w'
  | notifyFailures => some 'f'
  | noticeCapacity => none
  | enableLogging => some 'l'
  | help => some 'h'
  | version => some 'V'

/-- What the value of a flag is called, where it has one. -/
def valueName? : Flag → Option String
  | baseUrl => some "BASE_URL"
  | noticeCapacity => some "NOTICE_CAPACITY"
  | _ => none

def takesValue (f : Flag) : Bool := f.valueName?.isSome

/-- The flag as messages name it. -/
def text (f : Flag) : String :=
  "--" ++ f.longName ++ match f.valueName? with
    | some name => " <" ++ name ++ ">"
    | none => ""

/-- Two flags that cannot be given together. -/
def excludes : Flag → Flag → Bool
  | readOnly, writable => true
  | writable, readOnly => true
  | _, _ => false

def ofLongName? (name : List Char) : Option Flag := all.find? (·.longName.toList == name)

def ofLetter? (c : Char) : Option Flag := all.find? (·.letter? == some c)

theorem mem_all (f : Flag) : f ∈ all := by cases f <;> simp [all]

/-- A flag is found again by its long name. -/
theorem ofLongName?_longName (f : Flag) : ofLongName? f.longName.toList = some f := by cases f <;> decide

/-- A flag that has a letter is found again by it, so that no two flags share one. -/
theorem ofLetter?_letter {f : Flag} {c : Char} (h : f.letter? = some c) : ofLetter? c = some f := by
  cases f <;> simp only [letter?, Option.some.injEq, reduceCtorEq] at h <;> subst h <;> rfl

end Flag

end AckDesk
