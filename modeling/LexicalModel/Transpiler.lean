import LexicalModel.Source

/-!
# Transpilers

The library does not look into sources that define a model: it hands them to a transpiler and puts
the results together in order.  A transpiler may change the place where files are kept, as a program
does that writes files of its own.

* `Transpiler` : turns sources into script text
* `Transpiler.all` : the script text of several sources
-/

namespace LexicalModel

/-- Turns a source into script text; gives the state after that. -/
abbrev Transpiler (σ : Type) := SourceFile → σ → Result String × σ

namespace Transpiler

variable {σ : Type}

open Result (andThen)

/-- A transpiler that looks at nothing but the source. -/
def ofFunction (f : SourceFile → Result String) : Transpiler σ := fun source s => (f source, s)

/-- Sources that are script text already. -/
def passThrough : Transpiler σ := ofFunction fun source => .ok source.text

/-- Transpiles a source that may be one of several. -/
def one (t : Transpiler σ) (source : SourceFile) (s : σ) : Result String × σ :=
  let (text, s) := t source s
  (Result.within (.transpile source.path) text, s)

/-- The script texts of sources, in order. -/
def texts (t : Transpiler σ) : List SourceFile → σ → Result (List String) × σ
  | [], s => (.ok [], s)
  | source :: rest, s =>
    andThen (t.one source s) fun text s =>
      andThen (t.texts rest s) fun texts s => (.ok (text :: texts), s)

/-- The script texts of sources with a line feed between them. -/
def all (t : Transpiler σ) (sources : List SourceFile) (s : σ) : Result String × σ :=
  andThen (t.texts sources s) fun texts s => (.ok ("\n".intercalate texts), s)

end Transpiler

end LexicalModel
