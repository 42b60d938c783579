import Flagpost.Web.Header

/-!
# Flagpost — request methods

What a request wants done. Four methods are known by name; any other token is
a method too, which nothing answers to. The case of the letters counts.
-/

namespace Flagpost

/-- A request method. -/
inductive Method
  | get
  | head
  | post
  | put
  | delete
  | other (name : String)
deriving DecidableEq

namespace Method

/-- The method as a request line has it. -/
def name : Method → String
  | get => "GET"
  | head => "HEAD"
  | post => "POST"
  | put => "PUT"
  | delete => "DELETE"
  | other name => name

/-- The method with a name, if it can be one. -/
def ofName? (name : String) : Option Method :=
  if name.isEmpty || !name.toList.all Header.isTokenChar then none
  else if name = "GET" then some get
  else if name = "HEAD" then some head
  else if name = "POST" then some post
  else if name = "PUT" then some put
  else if name = "DELETE" then some delete
  else some (other name)

end Method

end Flagpost
