import LocalCI.Env
import LocalCI.Path

/-! The environment one job runs in. -/
namespace LocalCI

/-- A toolchain that is there to be used. -/
structure Installed where
  name : String
  channel : String
  version : Option String := none
  override : Bool := false
deriving DecidableEq, Repr

structure Context where
  workspace : Path
  env : Env := {}
  toolchain : Option Installed := none
deriving DecidableEq, Repr

end LocalCI
