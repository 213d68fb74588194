import LexicalModel.Package.Descriptor
import LexicalModel.Package.Markup

/-!
# Package projects

The author describes a package in a project file.  Of all that may stand in there, the library reads
what it needs: general information, the files that go into the package and the models in it.

* `PackageProject` : a project
* `PackageProject.parse` : the project that a text holds
-/

namespace LexicalModel

/-- A file that a project lists. -/
structure ProjectFile where
  /-- Where it is, seen from the project. -/
  source : String
  /-- What it is for. -/
  description : String
  deriving DecidableEq, Repr

/-- A package as its author describes it. -/
structure PackageProject where
  /-- General information. -/
  info : PackageInfo := {}
  /-- The files that go into the package. -/
  files : List ProjectFile := []
  /-- The models. -/
  lexicalModels : List PackageModel := []
  deriving DecidableEq, Repr

namespace PackageProject

open Markup

/-- The address in a link that opens a mail. -/
def mailAddress? (url : String) : Option String :=
  ((("mailto:".toList).isPrefixOf? url.toList).filter (· ≠ [])).map String.ofList

/-- The author, if the element names one or gives an address. -/
def readAuthor (e : Element) : Option PackageAuthor :=
  let name := e.text
  let email := (attribute? "URL" e.attributes).bind mailAddress?
  if name ≠ "" ∨ email.isSome = true then some ⟨name, email⟩ else none

/-- The general information in an element. -/
def readInfo (cs : List Char) : PackageInfo where
  name := childText? "Name" cs
  author := (element? "Author" cs).bind readAuthor
  version := childText? "Version" cs
  copyright := childText? "Copyright" cs
  website := childText? "WebSite" cs
  description := childText? "Description" cs

/-- A listed file. -/
def readFile (e : Element) : Except Cause ProjectFile :=
  match childText? "Name" e.inner with
  | some source => .ok ⟨source, (childText? "Description" e.inner).getD ""⟩
  | none => .error .fileWithoutName

/-- A language of the model `model`. -/
def readLanguage (model : String) (e : Element) : Except Cause PackageLanguage :=
  match (attribute? "ID" e.attributes).filter (· ≠ "") with
  | some id => .ok ⟨id, some e.text |>.filter (· ≠ "")⟩
  | none => .error (.languageWithoutId model)

/-- A model. -/
def readModel (e : Element) : Except Cause PackageModel :=
  match childText? "ID" e.inner with
  | none => .error .modelWithoutId
  | some id => do
    let languages ←
      match element? "Languages" e.inner with
      | some list => (elements "Language" list.inner).mapM (readLanguage id)
      | none => pure []
    return ⟨id, childText? "Name" e.inner, languages⟩

/-- The items of a section of a package, nothing where there is no such section. -/
def readSection {α : Type} (sectionTag itemTag : String) (read : Element → Except Cause α)
    (cs : List Char) : Except Cause (List α) :=
  match element? sectionTag cs with
  | some list => (elements itemTag list.inner).mapM read
  | none => .ok []

/-- The project that a text holds. -/
def parse (text : String) : Except Cause PackageProject :=
  match element? "Package" (stripComments text.toList) with
  | none => .error .noPackageElement
  | some package => do
    let info := ((element? "Info" package.inner).map fun e => readInfo e.inner).getD {}
    let files ← readSection "Files" "File" readFile package.inner
    let lexicalModels ← readSection "LexicalModels" "LexicalModel" readModel package.inner
    return { info, files, lexicalModels }

end PackageProject

end LexicalModel
