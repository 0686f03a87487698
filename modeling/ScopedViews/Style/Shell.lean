import ScopedViews.Style.Program
import ScopedViews.Style.Script
/-!
# Running scripts

What a script does with what it is given to read: which programs it runs on which words, and what
they print on which of two streams.
-/

namespace ScopedViews.Style

/-- How a script goes on. -/
inductive Flow where
  | on
  /-- It has been left. -/
  | left
  /-- It has been ended from outside. -/
  | killed (signal : Nat)
deriving Repr, DecidableEq, Inhabited

/-- The two streams that a program prints on. -/
inductive Stream where
  | output | errors
deriving Repr, DecidableEq, Inhabited

/-- A script while it runs.  What it has printed is held with the last first. -/
structure Shell where
  name : String
  arguments : List String
  values : List (String × String)
  /-- What has been written to files. -/
  files : List (String × List UInt8)
  status : Nat
  input : List UInt8
  printed : List (Stream × List UInt8)
  flow : Flow
deriving Repr, Inhabited

namespace Shell

def start (name : String) (arguments : List String) (input : List UInt8) : Shell :=
  ⟨name, arguments, [], [], 0, input, [], .on⟩

/-- What has been printed on a stream. -/
def shown (s : Shell) (stream : Stream) : List UInt8 :=
  (s.printed.reverse.filter (·.1 == stream)).flatMap (·.2)

def print (s : Shell) (stream : Stream) (bytes : List UInt8) : Shell :=
  if bytes.isEmpty then s else { s with printed := (stream, bytes) :: s.printed }

def complain (s : Shell) (line : Nat) (text : String) : Shell :=
  s.print .errors (Program.bytesOf (s.name ++ ": " ++ toString line ++ ": " ++ text ++ "\n"))

def set (s : Shell) (name value : String) : Shell :=
  { s with values := (name, value) :: s.values.filter (·.1 != name) }

/-- The number of a signal. -/
def signal? (text : String) : Option Nat :=
  let name := if text.startsWith "SIG" then String.ofList (text.toList.drop 3) else text
  match [("HUP", 1), ("INT", 2), ("QUIT", 3), ("ILL", 4), ("TRAP", 5), ("ABRT", 6), ("BUS", 7),
      ("FPE", 8), ("KILL", 9), ("USR1", 10), ("SEGV", 11), ("USR2", 12), ("PIPE", 13),
      ("ALRM", 14), ("TERM", 15)].lookup name with
  | some n => some n
  | none => text.toNat?

/-! ## Words -/

/-- The text by which a script knows itself. -/
def self : String := "$$"

/-- The value of a name, if it has one. -/
def value? (s : Shell) (name : String) : Option String :=
  match name with
  | "?" => some (toString s.status)
  | "#" => some (toString s.arguments.length)
  | "$" => some self
  | "@" | "*" => some (" ".intercalate s.arguments)
  | "0" => some s.name
  | n =>
    match n.toNat? with
    | some i => s.arguments[i - 1]?
    | none => s.values.lookup n

/-- Words that are put together: those that are finished, the last first, and the one at work. -/
structure Fields where
  finished : List String
  current : Option String

namespace Fields

def add (f : Fields) (text : String) : Fields :=
  { f with current := some (f.current.getD "" ++ text) }

def close (f : Fields) : Fields :=
  match f.current with
  | some w => ⟨w :: f.finished, none⟩
  | none => f

/-- Adds a text that falls apart at blanks. -/
def split (f : Fields) (text : String) : Fields :=
  text.toList.foldl
    (fun f c => if c = ' ' || c = '\t' || c = '\n' then f.close else f.add c.toString) f

def all (f : Fields) : List String := f.close.finished.reverse

end Fields

/-- A text without the line breaks at its end. -/
def withoutBreaks (bytes : List UInt8) : String :=
  let kept := (bytes.filter (· != 0)).reverse.dropWhile (· = 10) |>.reverse
  Text.decodeLossy kept

/-- A variable, or what stands in its place. -/
def filled (s : Shell) (name condition instead : String) : Shell × String :=
  let found := s.value? name
  let present := if condition.startsWith ":" then found.any (!·.isEmpty) else found.isSome
  match condition.toList.getLast? with
  | some '-' => (s, if present then found.getD "" else instead)
  | some '=' =>
    if present then (s, found.getD "") else (s.set name instead, instead)
  | some '+' => (s, if present then instead else "")
  | _ =>
    if name = "#" && !condition.isEmpty then (s, toString ((s.value? condition).getD "").length)
    else (s, found.getD "")

/-- What an expression about texts and numbers says. -/
def test : List String → Option Bool
  | [] => some false
  | "!" :: rest => (test rest).map (!·)
  | [a] => some (!a.isEmpty)
  | ["-z", a] => some a.isEmpty
  | ["-n", a] => some (!a.isEmpty)
  | [_, f] => some (f = "/" || f = "/tmp")
  | [a, "=", b] => some (a = b)
  | [a, "!=", b] => some (a != b)
  | [a, op, b] =>
    match a.toInt?, b.toInt? with
    | some a, some b =>
      match op with
      | "-eq" => some (a = b)
      | "-ne" => some (a ≠ b)
      | "-lt" => some (a < b)
      | "-le" => some (a ≤ b)
      | "-gt" => some (b < a)
      | "-ge" => some (b ≤ a)
      | _ => none
    | _, _ => none
  | _ => none

/-- A program by its name, with the directories where programs are. -/
def program? (inScript : Bool) (name : String) :
    Option (List String → List UInt8 → Outcome) :=
  let bare := (["/bin/", "/usr/bin/"].find? fun d => name.startsWith d).elim name fun d =>
    String.ofList (name.toList.drop d.length)
  let inScript := inScript && bare = name
  match bare with
  | "cat" => some Program.cat
  | "tr" => some Program.tr
  | "echo" => some (Program.echo inScript)
  | "printf" => some Program.printf
  | "head" => some Program.head
  | "tail" => some Program.tail
  | "wc" => some Program.wc
  | "sort" => some Program.sort
  | "uniq" => some Program.uniq
  | "rev" => some fun _ input => Program.rev input
  | "tac" => some fun _ input => Program.tac input
  | "true" => some fun _ input => ⟨0, [], [], input⟩
  | "false" => some fun _ input => ⟨1, [], [], input⟩
  | "sleep" => some fun _ input => ⟨0, [], [], input⟩
  | _ => none

/-- Runs a program on the words behind its name. -/
def runProgram (s : Shell) (line : Nat) (name : String) (words : List String) : Shell :=
  match program? true name with
  | some run =>
    let r := run words s.input
    { (s.print .errors r.errors).print .output r.output with
      status := r.status, input := r.remaining }
  | none => { s.complain line (name ++ ": not found") with status := 127 }

def readLine (s : Shell) (names : List String) : Shell :=
  let line := s.input.takeWhile (· != 10)
  let ended := line.length < s.input.length
  let text := Text.decodeLossy line
  let isSpace (c : Char) : Bool := c = ' ' || c = '\t'
  let rec fill (s : Shell) (cs : List Char) : List String → Shell
    | [] => s
    | [n] =>
      s.set n (String.ofList ((cs.dropWhile isSpace).reverse.dropWhile isSpace).reverse)
    | n :: ns =>
      let cs := cs.dropWhile isSpace
      fill (s.set n (String.ofList (cs.takeWhile fun c => !isSpace c)))
        (cs.dropWhile fun c => !isSpace c) ns
  { fill s text.toList names with
    input := s.input.drop (line.length + 1), status := if ended then 0 else 1 }

def kill (s : Shell) (words : List String) : Shell :=
  let (signal, targets) :=
    match words with
    | "-s" :: n :: rest => (signal? n, rest)
    | w :: rest =>
      match w.toList with
      | '-' :: n => (signal? (String.ofList n), rest)
      | _ => (some 15, words)
    | [] => (none, [])
  match signal with
  | some 0 => { s with status := 0 }
  | some n => if targets.contains self then { s with flow := .killed n } else { s with status := 1 }
  | none => { s with status := 2 }

/-- Whether a word sets a variable: its name, and how long the name is. -/
def assigned? : PartedWord → Option (String × PartedWord)
  | .plain t false :: rest =>
    let (name, more) := t.toList.span (· != '=')
    match name, more with
    | c :: cs, _ :: value =>
      if Script.isNameStart c && cs.all Script.isNamePart then
        some (String.ofList name, .plain (String.ofList value) true :: rest)
      else none
    | _, _ => none
  | _ => none

/-- Where the streams of a command lead. -/
structure Leads where
  output : Option (Stream ⊕ String)
  errors : Option (Stream ⊕ String)

/-- Sends what has been printed since where it leads. -/
def route (s before : Shell) (l : Leads) : Shell :=
  let printed := s.printed.take (s.printed.length - before.printed.length)
  printed.reverse.foldl
    (fun s (stream, bytes) =>
      match if stream = .output then l.output else l.errors with
      | none => s
      | some (.inl t) => s.print t bytes
      | some (.inr f) =>
        { s with files := (f, (s.files.lookup f).getD [] ++ bytes) ::
            s.files.filter (·.1 != f) })
    { s with printed := before.printed }

mutual

/-- The words that a word stands for. -/
def expand : Nat → Shell → PartedWord → Fields → Shell × Fields
  | 0, s, _, f => (s, f)
  | _ + 1, s, [], f => (s, f)
  | fuel + 1, s, p :: ps, f =>
    match p with
    | .plain t _ => expand fuel s ps (f.add t)
    | .variable "@" "" _ true =>
      let f :=
        match s.arguments with
        | [] => f
        | a :: more => more.foldl (fun f w => f.close.add w) (f.add a)
      expand fuel s ps f
    | .variable n c i q =>
      let (s, v) := s.filled n c i
      expand fuel s ps (if q then f.add v else f.split v)
    | .printed text q =>
      let (s, v) := output fuel s text
      expand fuel s ps (if q then f.add v else f.split v)

/-- What a script prints, without the line breaks at its end. -/
def output : Nat → Shell → String → Shell × String
  | 0, s, _ => (s, "")
  | fuel + 1, s, text =>
    match Script.read text with
    | .error e => ({ s.complain 1 e.message with status := 2, flow := .left }, "")
    | .ok script =>
      let inner := run fuel script { s with printed := s.printed.filter fun _ => false }
      let s := { s with input := inner.input, status := inner.status }
      let s := s.print .errors (inner.shown .errors)
      let s :=
        match inner.flow with
        | .killed n => { s with flow := .killed n }
        | _ => s
      (s, withoutBreaks (inner.shown .output))

def words : Nat → Shell → List PartedWord → Shell × List String
  | 0, s, _ => (s, [])
  | _ + 1, s, [] => (s, [])
  | fuel + 1, s, w :: ws =>
    let (s, f) := expand fuel s w ⟨[], none⟩
    let (s, more) := words fuel s ws
    (s, f.all ++ more)

/-- Sets variables in order. -/
def assign : Nat → Shell → List PartedWord → Shell
  | 0, s, _ => s
  | _ + 1, s, [] => s
  | fuel + 1, s, w :: ws =>
    match assigned? w with
    | some (name, value) =>
      let quoted := value.map fun p =>
        match p with
        | .plain t _ => Part.plain t true
        | .variable n c i _ => .variable n c i true
        | .printed t _ => .printed t true
      let (s, f) := expand fuel s quoted ⟨[], none⟩
      assign fuel (s.set name (" ".intercalate f.all)) ws
    | none => s

/-- Does something with streams that lead elsewhere; nothing, if there is nothing to read. -/
def redirected : Nat → Shell → List Redirect → (Shell → Shell) → Shell
  | 0, s, _, _ => s
  | fuel + 1, s, rs, action =>
    let step (acc : Shell × Leads × Option (List UInt8) × Bool) (r : Redirect) :=
      let (s, l, input, ok) := acc
      let (s, f) := expand fuel s r.target ⟨[], none⟩
      let target := " ".intercalate f.all
      let sink : Option (Stream ⊕ String) :=
        if r.mark = ">&" then
          match target with
          | "1" => l.output
          | "2" => l.errors
          | _ => none
        else
          match target with
          | "/dev/null" => none
          | "/dev/stdout" => l.output
          | "/dev/stderr" => l.errors
          | f => some (.inr f)
      let s :=
        match r.mark, sink with
        | ">", some (.inr f) => { s with files := (f, []) :: s.files.filter (·.1 != f) }
        | _, _ => s
      if r.mark = "<" then
        match target, s.files.lookup target with
        | "/dev/null", _ => (s, l, some [], ok)
        | "/dev/stdin", _ => (s, l, input, ok)
        | _, some bytes => (s, l, some bytes, ok)
        | t, none =>
          ({ s.complain 1 ("cannot open " ++ t ++ ": No such file") with status := 2 }, l, input,
            false)
      else if r.stream = 2 then (s, { l with errors := sink }, input, ok)
      else (s, { l with output := sink }, input, ok)
    let (s, l, input, ok) :=
      rs.foldl step (s, ⟨some (.inl .output), some (.inl .errors)⟩, none, true)
    if !ok then s
    else
      match input with
      | some bytes => { (action { s with input := bytes }).route s l with input := s.input }
      | none => (action s).route s l

/-- Runs a program or one of the script's own commands. -/
def simple : Nat → Nat → List String → Shell → Shell
  | 0, _, _, s => s
  | fuel + 1, line, ws, s =>
    match ws with
    | [] => s
    | ":" :: _ => { s with status := 0 }
    | ["exit"] => { s with flow := .left }
    | "exit" :: n :: _ =>
      match n.toNat? with
      | some n => { s with flow := .left, status := n % 256 }
      | none =>
        { s.complain line ("exit: Illegal number: " ++ n) with flow := .left, status := 2 }
    | "kill" :: rest => s.kill rest
    | "read" :: rest => s.readLine (rest.filter (· != "-r"))
    | "shift" :: rest =>
      { s with arguments := s.arguments.drop ((rest.head?.bind (·.toNat?)).getD 1), status := 0 }
    | "export" :: rest | "readonly" :: rest | "local" :: rest =>
      let s := rest.foldl
        (fun s w =>
          match w.splitOn "=" with
          | n :: v :: more => s.set n ("=".intercalate (v :: more))
          | _ => s) s
      { s with status := 0 }
    | "unset" :: rest =>
      { s with values := s.values.filter fun (n, _) => !rest.contains n, status := 0 }
    | "set" :: "--" :: rest => { s with arguments := rest, status := 0 }
    | "set" :: _ => { s with status := 0 }
    | "test" :: rest =>
      { s with status := (test rest).elim 2 fun b => if b then 0 else 1 }
    | "[" :: rest =>
      if rest.getLast? = some "]" then
        { s with status := (test rest.dropLast).elim 2 fun b => if b then 0 else 1 }
      else { s.complain line "[: missing ]" with status := 2 }
    | "eval" :: rest =>
      match Script.read (" ".intercalate rest) with
      | .ok script => run fuel script s
      | .error e => { s.complain line ("eval: " ++ e.message) with status := 2, flow := .left }
    | "exec" :: rest =>
      let s := simple fuel line rest s
      if rest.isEmpty then s else { s with flow := if s.flow = .on then .left else s.flow }
    | "command" :: rest => simple fuel line rest s
    | "sh" :: "-c" :: text :: rest | "/bin/sh" :: "-c" :: text :: rest =>
      let name := rest.headD (ws.headD "sh")
      match Script.read text with
      | .error e =>
        { (Shell.complain { s with name := name } 1 e.message) with name := s.name, status := 2 }
      | .ok script =>
        let inner := run fuel script
          { s with name := name, arguments := rest.drop 1, values := [] }
        let status :=
          match inner.flow with
          | .killed n => 128 + n
          | _ => inner.status
        { s with input := inner.input, printed := inner.printed, files := inner.files,
                 status := status }
    | name :: rest => s.runProgram line name rest

/-- Runs a script. -/
def run : Nat → Script → Shell → Shell
  | 0, _, s => s
  | fuel + 1, script, s =>
    if s.flow ≠ .on then s
    else
      match script with
      | .nothing => s
      | .simple line ws rs =>
        let sets := ws.takeWhile fun w => (assigned? w).isSome
        let (s', fields) := words fuel { s with status := s.status } (ws.drop sets.length)
        if fields.isEmpty && ws.length = sets.length then
          redirected fuel (assign fuel { s' with status := 0 } sets) rs id
        else
          let inner := redirected fuel (assign fuel s' sets) rs (simple fuel line fields)
          if sets.isEmpty then inner else { inner with values := s.values }
      | .pipe a b =>
        let first := run fuel a { s with printed := [] }
        let second := run fuel b
          { s with input := first.shown .output, printed := [], files := first.files }
        let flow :=
          match first.flow, second.flow with
          | .killed n, _ | _, .killed n => .killed n
          | _, _ => s.flow
        let both := { s with input := first.input, status := second.status,
                             files := second.files, flow := flow }
        { both.print .errors (first.shown .errors) with
          printed := second.printed ++ (both.print .errors (first.shown .errors)).printed }
      | .both a b =>
        let s := run fuel a s
        if s.status = 0 then run fuel b s else s
      | .either a b =>
        let s := run fuel a s
        if s.status = 0 then s else run fuel b s
      | .next a b => run fuel b (run fuel a s)
      | .denied a =>
        let s := run fuel a s
        { s with status := if s.status = 0 then 1 else 0 }
      | .group a apart rs =>
        redirected fuel s rs fun s =>
          let inner := run fuel a s
          if apart then
            { inner with values := s.values, arguments := s.arguments,
                         flow := if inner.flow = .left then .on else inner.flow }
          else inner
      | .choice t y n =>
        let s := run fuel t s
        if s.status = 0 then run fuel y s else run fuel n { s with status := 0 }
      | .loop t b opposite =>
        let tested := run fuel t s
        if tested.flow ≠ .on then tested
        else if (tested.status = 0) != opposite then
          run fuel (.loop t b opposite) (run fuel b tested)
        else { tested with status := 0 }
      | .each name ws b =>
        let (s, values) := words fuel s ws
        values.foldl (fun s v => run fuel b (s.set name v)) { s with status := 0 }

end

/-- How many steps a script may take. -/
def mostSteps : Nat := 20000

/-- Runs the text of a script. -/
def ofText (name text : String) (arguments : List String) (input : List UInt8) : Shell :=
  let s := start name arguments input
  match Script.read text with
  | .ok script => run mostSteps script s
  | .error e => { s.complain 1 e.message with status := 2 }

end Shell

end ScopedViews.Style
