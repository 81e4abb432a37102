import CircularLog.Text.Numeral

namespace CircularLog.CommandLine

-- How an answer is laid out. Every other name of a format means plain text.
inductive Layout where
  | text
  | json
  deriving DecidableEq, Repr

def Layout.ofName (name : String) : Layout :=
  if name = "json" then .json else .text

inductive Task where
  | replay (place : Option String) (layout : Layout)
  | inspect (layout : Layout)
  | version
  deriving DecidableEq, Repr

structure Invocation where
  capacity : Nat
  input : Option String
  chunkSize : Nat
  verbose : Bool
  task : Task
  deriving DecidableEq, Repr

inductive Halt where
  | misused
  | help
  | version
  deriving DecidableEq, Repr

inductive Key where
  | capacity
  | input
  | chunkSize
  | verbose
  | place
  | format
  | help
  | version
  deriving DecidableEq, Repr

namespace Key

def long : Key → String
  | .capacity => "capacity"
  | .input => "input"
  | .chunkSize => "chunk-size"
  | .verbose => "verbose"
  | .place => "seek"
  | .format => "format"
  | .help => "help"
  | .version => "version"

def short? : Key → Option Char
  | .capacity => some 'c'
  | .input => some 'i'
  | .chunkSize => none
  | .verbose => some 'v'
  | .place => some 's'
  | .format => some 'f'
  | .help => some 'h'
  | .version => some 'V'

def takesValue : Key → Bool
  | .verbose | .help | .version => false
  | _ => true

end Key

inductive Level where
  | top
  | replay
  | inspect
  | version
  | help (asked : Bool)
  deriving DecidableEq, Repr

namespace Level

def ofName? : String → Option Level
  | "replay" => some .replay
  | "inspect" => some .inspect
  | "version" => some .version
  | "help" => some (.help false)
  | _ => none

def shared : List Key :=
  [.capacity, .input, .chunkSize, .verbose, .help]

def keys : Level → List Key
  | .top => .version :: shared
  | .replay => .place :: .format :: shared
  | .inspect => .format :: shared
  | .version => shared
  | .help _ => []

end Level

structure Given where
  capacity : Option Nat := none
  input : Option String := none
  chunkSize : Option Nat := none
  verbose : Bool := false
  place : Option String := none
  format : Option String := none
  deriving DecidableEq, Repr

namespace Given

-- A value set for the first time. A second one at the same level is a misuse.
def once {α : Type} (old : Option α) (value : α) : Except Halt (Option α) :=
  if old.isSome then .error .misused else .ok (some value)

def number (value : String) : Except Halt Nat :=
  (Numeral.parse value.toList).mapError fun _ => .misused

def put (given : Given) (key : Key) (value : String) : Except Halt Given :=
  match key with
  | .capacity => do return { given with capacity := ← once given.capacity (← number value) }
  | .chunkSize => do return { given with chunkSize := ← once given.chunkSize (← number value) }
  | .input =>
    if value.isEmpty then .error .misused
    else do return { given with input := ← once given.input value }
  | .place => do return { given with place := ← once given.place value }
  | .format => do return { given with format := ← once given.format value }
  | .verbose | .help | .version => .error .misused

def mark (given : Given) : Key → Except Halt Given
  | .verbose => if given.verbose then .error .misused else .ok { given with verbose := true }
  | .help => .error .help
  | .version => .error .version
  | _ => .error .misused

-- What is given behind the command comes before what is given in front of it.
def within (inner outer : Given) : Given where
  capacity := inner.capacity <|> outer.capacity
  input := inner.input <|> outer.input
  chunkSize := inner.chunkSize <|> outer.chunkSize
  verbose := inner.verbose || outer.verbose
  place := inner.place
  format := inner.format

end Given

structure Reading where
  level : Level := .top
  outer : Given := {}
  given : Given := {}
  awaiting : Option Key := none
  -- Two dashes have been met, after which every word is a misuse.
  closed : Bool := false
  deriving DecidableEq, Repr

namespace Reading

def put (reading : Reading) (key : Key) (value : List Char) : Except Halt Reading := do
  return { reading with
    given := ← reading.given.put key (String.ofList value), awaiting := none }

def mark (reading : Reading) (key : Key) : Except Halt Reading := do
  return { reading with given := ← reading.given.mark key }

def long (reading : Reading) (body : List Char) : Except Halt Reading :=
  let (name, rest) := body.span (· != '=')
  match reading.level.keys.find? (·.long == String.ofList name) with
  | none => .error .misused
  | some key =>
    match key.takesValue, rest with
    | true, [] => .ok { reading with awaiting := some key }
    | true, _ :: value => reading.put key value
    | false, [] => reading.mark key
    | false, _ :: _ => .error .misused

-- Options by their letters. The first that takes a value takes the rest of the word, without an
-- equals sign in front, or the next word if nothing is left.
def letters (reading : Reading) : List Char → Except Halt Reading
  | [] => .ok reading
  | letter :: rest =>
    match reading.level.keys.find? (·.short? == some letter) with
    | none => .error .misused
    | some key =>
      if key.takesValue then
        match rest with
        | [] => .ok { reading with awaiting := some key }
        | '=' :: value => reading.put key value
        | value => reading.put key value
      else do (← reading.mark key).letters rest

def name (reading : Reading) (word : String) : Except Halt Reading :=
  match reading.level, Level.ofName? word with
  | .top, some level => .ok { reading with level, outer := reading.given, given := {} }
  | .help false, some _ => .ok { reading with level := .help true }
  | _, _ => .error .misused

def word (reading : Reading) (word : String) : Except Halt Reading :=
  if reading.closed then .error .misused
  else match reading.awaiting, word.toList with
    | some _, '-' :: _ :: _ => .error .misused
    | some key, value => reading.put key value
    | none, ['-', '-'] =>
      if reading.level matches .help _ then .error .misused else .ok { reading with closed := true }
    | none, '-' :: '-' :: body => reading.long body
    | none, '-' :: letter :: rest => reading.letters (letter :: rest)
    | none, _ => reading.name word

def task (reading : Reading) : Except Halt Task :=
  let layout := Layout.ofName (reading.given.format.getD "text")
  match reading.level with
  | .top => .error .misused
  | .replay => .ok (.replay reading.given.place layout)
  | .inspect => .ok (.inspect layout)
  | .version => .ok .version
  | .help _ => .error .help

def finish (reading : Reading) : Except Halt Invocation :=
  if reading.awaiting.isSome then .error .misused
  else do
    let task ← reading.task
    let given := reading.given.within reading.outer
    return ⟨given.capacity.getD 10, given.input, given.chunkSize.getD 4096, given.verbose, task⟩

end Reading

def Invocation.ofWords (words : List String) : Except Halt Invocation := do
  (← words.foldlM Reading.word {}).finish

end CircularLog.CommandLine
