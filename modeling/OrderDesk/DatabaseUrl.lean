/-! Naming the database driver in the address of a database. -/

namespace OrderDesk.DatabaseUrl

def drivers : List (String × String) := [
  ("postgresql://", "postgresql+asyncpg://"),
  ("postgres://", "postgresql+asyncpg://"),
  ("sqlite:///", "sqlite+aiosqlite:///")]

def withDriver (url : String) : String :=
  match drivers.find? fun (plain, _) => plain.toList.isPrefixOf url.toList with
  | some (plain, named) => named ++ String.ofList (url.toList.drop plain.length)
  | none => url

theorem withDriver_named {plain named : String} (member : (plain, named) ∈ drivers)
    (rest : String) : withDriver (named ++ rest) = named ++ rest := by
  simp only [drivers, List.mem_cons, List.not_mem_nil, or_false, Prod.mk.injEq] at member
  rcases member with ⟨_, same⟩ | ⟨_, same⟩ | ⟨_, same⟩ <;> subst same <;>
    simp [withDriver, drivers, List.isPrefixOf]

/-- An address that names its driver is kept, so naming it again changes nothing. -/
theorem withDriver_withDriver (url : String) : withDriver (withDriver url) = withDriver url := by
  cases found : drivers.find? fun (plain, _) => plain.toList.isPrefixOf url.toList with
  | none =>
      have kept : withDriver url = url := by rw [withDriver, found]
      rw [kept, kept]
  | some driver =>
      have written : withDriver url =
          driver.2 ++ String.ofList (url.toList.drop driver.1.length) := by rw [withDriver, found]
      rw [written]
      exact withDriver_named (List.mem_of_find?_eq_some found) _

example : withDriver "postgres://host/rows" = "postgresql+asyncpg://host/rows" ∧
    withDriver "postgresql+asyncpg://host/rows" = "postgresql+asyncpg://host/rows" := by
  decide +kernel

end OrderDesk.DatabaseUrl
