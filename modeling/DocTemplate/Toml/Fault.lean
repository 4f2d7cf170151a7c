import DocTemplate.Limits

/-!
# Faults of TOML documents
-/

namespace DocTemplate.Toml

/-- Why a document is not read. -/
inductive Fault where
  /-- It is no TOML. -/
  | malformed
  | beyond (limit : Limit)
  deriving DecidableEq, Repr

/-- What a reader gives, or the fault that no TOML stands here. -/
def orMalformed {α : Type} : Option α → Except Fault α
  | some a => .ok a
  | none => .error .malformed

end DocTemplate.Toml
