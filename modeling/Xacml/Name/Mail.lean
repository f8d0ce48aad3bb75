import Xacml.Text.Cut
import Xacml.Text.Letter

/-!
# Mail names

A mail name is a local part and a domain around one `@`.  The domain is kept in lower case.

* `MailName.read?` reads a name,
* `MailName.write` writes it,
* `MailName.matchesPattern` tells whether a name satisfies a pattern.
-/

namespace Xacml

structure MailName where
  localPart : List Char
  domain : List Char
  deriving DecidableEq, Repr

namespace MailName

def read? (text : List Char) : Option MailName :=
  match text.splitOn '@' with
  | [localPart, domain] =>
      if localPart.isEmpty || domain.isEmpty then none
      else some ⟨localPart, Text.lowerAscii domain⟩
  | _ => none

def write (name : MailName) : List Char :=
  name.localPart ++ '@' :: name.domain

/-- Whether a name satisfies a pattern, which is a whole name, a domain, or a point and the end of
a domain.  Domains are compared up to the case of ASCII letters. -/
def matchesPattern (name : MailName) (pattern : List Char) : Bool :=
  match Text.cut? '@' pattern with
  | some (localPart, domain) => localPart == name.localPart && Text.sameAscii domain name.domain
  | none =>
      match pattern with
      | '.' :: _ => (Text.lowerAscii pattern).isSuffixOf name.domain
      | _ => Text.sameAscii pattern name.domain

end MailName

end Xacml
