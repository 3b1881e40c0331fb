import Mathlib.Data.List.Infix
import SandboxClient.Proofs.Dotenv.Merging
import SandboxClient.Proofs.Program.Silence

/-!
# Loading an environment file

Of the places where an environment file may be, the first one that has a regular file decides, and no
other file is looked into.  Loading it leaves a record at most.
-/

namespace SandboxClient

namespace Surroundings

/-- The places where an environment file may be, the first one first: where the environment says, in the
working directory and the two above it, in that of the program and in the one above it. -/
def dotenvPlaces (surroundings : Surroundings) : List Bytes :=
  let named := (surroundings.environment.value? (utf8 "ROCK_DOTENV_PATH")).toList.filter (· ≠ [])
  let above := surroundings.directory.inits.reverse.take 3
  let beside := surroundings.programDirectory?.toList.flatMap fun directory =>
    [directory, directory.dropLast]
  named ++ (above ++ beside).map Dotenv.pathIn

/-- The content of the environment file that counts. -/
def dotenvFile? (surroundings : Surroundings) : Option Bytes :=
  surroundings.dotenvPlaces.findSome? (surroundings.files.content? surroundings.directory)

/-- The value of a variable in the process or, if it is not set there, in the environment file. -/
def value? (surroundings : Surroundings) (name : Bytes) : Option Bytes :=
  (surroundings.environment.value? name).or
    (surroundings.dotenvFile?.bind fun content => Dotenv.assigned? (Dotenv.assignments content) name)

end Surroundings

namespace Dotenv

variable {surroundings loaded : Surroundings}

theorem ancestors_eq_take (count : Nat) (directory : Location) :
    ancestors count directory = directory.inits.reverse.take count := by
  induction count generalizing directory with
  | zero => rfl
  | succ count ih =>
      rcases List.eq_nil_or_concat directory with rfl | ⟨parent, name, rfl⟩
      · simp [ancestors]
      · simp [ancestors, ih, List.inits_append]

theorem searchPaths_eq_dotenvPlaces (surroundings : Surroundings) :
    searchPaths surroundings = surroundings.dotenvPlaces := by
  rw [searchPaths, Surroundings.dotenvPlaces, ancestors_eq_take]
  congr 1
  · cases named : surroundings.environment.value? (utf8 "ROCK_DOTENV_PATH") with
    | none => simp [Environment.valueD, named]
    | some path => cases path <;> simp [Environment.valueD, named]
  · cases surroundings.programDirectory? <;> rfl

theorem findSome?_eq_bind_find? {Element Value : Type} (find : Element → Option Value)
    (elements : List Element) : elements.findSome? find =
      (elements.find? fun element => (find element).isSome).bind find := by
  induction elements with
  | nil => rfl
  | cons element rest ih =>
      cases found : find element with
      | none => simp [found, ih]
      | some value => simp [found]

/-- The environment that the environment file is merged into. -/
def merged (surroundings : Surroundings) : Environment :=
  match surroundings.dotenvFile? with
  | none => surroundings.environment
  | some content => (apply content surroundings.environment).1

theorem load_remarks (fresh : surroundings.isSearched = false) :
    ∃ loaded, (load surroundings).Remarks loaded ∧ loaded.environment = merged surroundings := by
  rw [load, fresh, if_neg Bool.false_ne_true, merged, Surroundings.dotenvFile?,
    ← searchPaths_eq_dotenvPlaces, findSome?_eq_bind_find?, ← locate?]
  cases located : locate? surroundings with
  | none => exact ⟨_, .inl rfl, rfl⟩
  | some path =>
      have isFile := List.find?_some located
      obtain ⟨content, found⟩ := Option.isSome_iff_exists.mp isFile
      refine ⟨_, .inr ⟨_, rfl⟩, ?_⟩
      simp only [found, Option.bind_some]

/-- A variable gets its value from the process if it is set there, and else from the file. -/
theorem value?_merged {name : Bytes} (can : Environment.canName name = true)
    (surroundings : Surroundings) :
    (merged surroundings).value? name = surroundings.value? name := by
  rw [merged, Surroundings.value?]
  cases surroundings.dotenvFile? with
  | none => exact Option.or_none.symm
  | some content => exact value?_define can _ _

end Dotenv

end SandboxClient
