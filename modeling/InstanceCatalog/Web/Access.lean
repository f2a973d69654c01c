import InstanceCatalog.Web.Charset
import InstanceCatalog.Web.Url

namespace InstanceCatalog

structure WebRequest where
  url : WebUrl
  /-- What kind of answer is asked for. -/
  accept : Text
  userAgent : Text
deriving DecidableEq, Repr

structure WebResponse where
  status : Nat
  contentType : Option Text
  body : Bytes
deriving DecidableEq, Repr

namespace WebResponse

/-- Statuses from 400 to 599 tell of errors. -/
def isSuccess (r : WebResponse) : Bool := r.status < 400 || 599 < r.status

def text (r : WebResponse) : Text :=
  ((r.contentType.map Charset.ofContentType).getD .utf8).decodeMarked r.body

end WebResponse

/-- A world that answers requests, or does not. -/
structure WebAccess (m : Type → Type) where
  send : WebRequest → m (Option WebResponse)

namespace WebAccess

/-- Without a network no request is answered. -/
def offline [Monad m] : WebAccess m := ⟨fun _ => return none⟩

def getText [Monad m] (web : WebAccess m) (request : WebRequest) : m (Option Text) := do
  match ← web.send request with
  | none => return none
  | some response => return if response.isSuccess then some response.text else none

end WebAccess
end InstanceCatalog
