import InstanceCatalog.Text.Basic

namespace InstanceCatalog
namespace Html

/-- A list of sibling nodes. Each node is followed by its next siblings; comments are left out.
The serial number of an element tells when it was made. -/
inductive Forest
  | nil
  | text (characters : Text) (next : Forest)
  | element (serial : Nat) (name : String) (children next : Forest)
  /-- The contents of a template, which are a document of their own. -/
  | contents (children next : Forest)
deriving DecidableEq, Repr

end Html
end InstanceCatalog
