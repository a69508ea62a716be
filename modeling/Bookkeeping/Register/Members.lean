import Bookkeeping.Register.Basic

namespace Bookkeeping.Members

def create (m : Member) : Work Unit := Register.enter .members m.row

def get (id : Uuid) : Work Member :=
  Register.look (fun b => b.members.find? (·.id == id.text)) Member.ofRow

def save (m : Member) : Work Unit :=
  Register.replace .members (Register.bodyColumns .members) (·.id == m.id.text) m.row

def delete (id : Uuid) : Work Unit := Register.strike .members (·.id == id.text)

def list : Work (List Member) :=
  Register.list (·.members.mergeSort (Register.byText (·.firstName))) Member.ofRow

end Bookkeeping.Members
