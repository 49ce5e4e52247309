import IPProxyPool.Lib.Ip
import IPProxyPool.Model.Node

/-!
# Test nodes

The injection channel `TEST_POOL_NODES` of the start-up and its check `is_loopback_addr`.
-/

namespace IPProxyPool
open RustText

/-- `is_loopback_addr`, for an `ip:port` or an `ip` alone. -/
def isLoopbackAddr (addr : String) : Bool :=
  let host := ((rsplitOnce ':' addr.toList).map (fun p => String.ofList p.1)).getD addr
  startsWith host "127." || host == "localhost" || host == "::1" || host == "[::1]" ||
    startsWith addr "[::1]"

/-- The items of the variable; where it is not set, or not Unicode, there are none. -/
def testPoolItems (var : Option String) : List String :=
  ((split ',' (var.getD "")).map trimString).filter (fun spec => spec ≠ "")

/-- The node of an item, if it has one. Without an outer result, an `expect` of the source panics:
there the fields are parsed a second time, the weight as a `u32`. -/
def testNode (spec : String) : Option (Option ProxyNode) :=
  match split ':' spec with
  | [ip, port, tier, country, provider, weight] =>
    if isLoopbackAddr (ip ++ ":0") && (parseUnsigned (2 ^ 16) port).isSome &&
        (parseUnsigned (2 ^ 8) weight).isSome then do
      let port ← parseUnsigned (2 ^ 16) port
      let weight ← parseUnsigned (2 ^ 32) weight
      return some (ProxyNode.new ip (UInt16.ofNat port) none none country tier provider weight)
    else some none
  | _ => some none

/-- The nodes that the variable injects; `none` is a panic. -/
def testPoolNodes (var : Option String) : Option (List ProxyNode) :=
  ((testPoolItems var).mapM testNode).map List.reduceOption

end IPProxyPool
