namespace Bookkeeping

inductive OnDelete
  | restrict
  | cascade
  | setNull
  deriving DecidableEq, Repr

def OnDelete.label : OnDelete → String
  | .restrict => "Restrict"
  | .cascade => "Cascade"
  | .setNull => "SetNull"

structure ForeignKey where
  name : String
  childTable : String
  childColumn : String
  parentTable : String
  parentColumn : String
  onDelete : OnDelete
  deriving DecidableEq, Repr

namespace ForeignKey

def reference (k : ForeignKey) : String :=
  s!"(CONSTRAINT `{k.name}` FOREIGN KEY (`{k.childColumn}`) "
    ++ s!"REFERENCES `{k.parentTable}` (`{k.parentColumn}`))"

def childMessage (k : ForeignKey) : String :=
  s!"Cannot add or update a child row: a foreign key constraint fails {k.reference}"

def parentMessage (k : ForeignKey) : String :=
  s!"Cannot delete or update a parent row: a foreign key constraint fails {k.reference}"

def childCondition (k : ForeignKey) : String :=
  s!"NEW.{k.childColumn} IS NOT NULL AND NOT EXISTS "
    ++ s!"(SELECT 1 FROM {k.parentTable} WHERE {k.parentColumn} = NEW.{k.childColumn})"

def insertTrigger (k : ForeignKey) : String :=
  s!"CREATE TRIGGER IF NOT EXISTS guard_{k.name}_insert BEFORE INSERT ON {k.childTable} "
    ++ s!"FOR EACH ROW WHEN {k.childCondition} "
    ++ s!"BEGIN SELECT RAISE(ABORT, '{k.childMessage}'); END;"

def updateTrigger (k : ForeignKey) : String :=
  s!"CREATE TRIGGER IF NOT EXISTS guard_{k.name}_update BEFORE UPDATE OF {k.childColumn} "
    ++ s!"ON {k.childTable} FOR EACH ROW WHEN {k.childCondition} "
    ++ s!"BEGIN SELECT RAISE(ABORT, '{k.childMessage}'); END;"

def deleteTrigger (k : ForeignKey) : String :=
  s!"CREATE TRIGGER IF NOT EXISTS guard_{k.name}_delete BEFORE DELETE ON {k.parentTable} "
    ++ s!"FOR EACH ROW WHEN EXISTS "
    ++ s!"(SELECT 1 FROM {k.childTable} WHERE {k.childColumn} = OLD.{k.parentColumn}) "
    ++ s!"BEGIN SELECT RAISE(ABORT, '{k.parentMessage}'); END;"

-- Cascading and clearing keys never block a delete, so only restricting ones guard it.
def triggerNames (k : ForeignKey) : List String :=
  let names := [s!"guard_{k.name}_insert", s!"guard_{k.name}_update"]
  if k.onDelete = .restrict then names ++ [s!"guard_{k.name}_delete"] else names

def createTriggers (k : ForeignKey) : List String :=
  let statements := [k.insertTrigger, k.updateTrigger]
  if k.onDelete = .restrict then statements ++ [k.deleteTrigger] else statements

end ForeignKey

end Bookkeeping
