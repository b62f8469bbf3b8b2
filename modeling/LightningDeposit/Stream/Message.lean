import LightningDeposit.Text.Blank

/-!
Messages of a publish and subscribe channel, and the checking ids in them: a message on the right
topic whose payload is UTF-8 and not blank names the id that is left when it is trimmed.
-/

namespace LightningDeposit

@[ext]
structure Message where
  channel : String
  payload : ByteArray

instance : DecidableEq Message := fun a b =>
  have := ByteArray.instDecidableEq a.payload b.payload
  decidable_of_iff (a.channel = b.channel ∧ a.payload = b.payload) Message.ext_iff.symm

/-- The topic on which settled charges are published. -/
def paidInvoicesChannel : String := "cashu:paid_invoices"

namespace Message

def checkingId? (topic : String) (m : Message) : Option String :=
  if m.channel = topic then
    (String.fromUTF8? m.payload).bind fun s =>
      let id := Text.trim s
      if id = "" then none else some id
  else none

end Message

end LightningDeposit
