import JaDesktop.Host.ServerRequests
import JaDesktop.Settings.Model

/-!
# Approval requests at the bridge

The sidecar asks for an approval with the private request `approval/request`.  The bridge keeps of
it only what it needs to answer later (`PendingApproval`): the identifier of the request, the turn
it belongs to and the time it expires.  `pendingApprovalFromRequest` checks the whole request
before that, and `approvalExpired` compares the two clocks in the canonical form of
`canonicalTimestamp`.
-/

namespace JaDesktop.Bridge

open Host (Value Map RpcFrame)
open Settings (isControl isAlphanumericChar)

/-! ## Time -/

/-- The byte at a place of a timestamp. -/
def byteAt (bytes : List UInt8) (index : ℕ) : UInt8 := bytes.getD index 0

/-- A digit of the fraction, zero behind its end. -/
def fractionDigit (fraction : List UInt8) (index : ℕ) : Char :=
  Char.ofNat (fraction.getD index 0x30).toNat

/-- `canonical_timestamp`: a UTC instant, cut to three digits of a second. -/
def canonicalTimestamp (value : String) : Option String :=
  let bytes := asBytes value
  if bytes.length < 20 || 64 < bytes.length || bytes.getLast? != some 0x5A ||
      byteAt bytes 10 != 0x54 || byteAt bytes 4 != 0x2D || byteAt bytes 7 != 0x2D ||
      byteAt bytes 13 != 0x3A || byteAt bytes 16 != 0x3A then
    none
  else if !([0, 1, 2, 3, 5, 6, 8, 9, 11, 12, 14, 15, 17, 18].all fun index =>
      isAsciiDigit (byteAt bytes index)) then
    none
  else
    let head := String.ofList (value.toList.take 19)
    if bytes.length = 20 then some (head ++ ".000Z")
    else if byteAt bytes 19 != 0x2E || bytes.length < 22 then none
    else
      let fraction := (bytes.drop 20).dropLast
      if fraction.isEmpty || !fraction.all isAsciiDigit then none
      else
        some (head ++ "." ++ String.ofList
          [fractionDigit fraction 0, fractionDigit fraction 1, fractionDigit fraction 2] ++ "Z")

/-- `approval_expired`; `now` is what `now_timestamp` answers. -/
def approvalExpired (now expiresAt : String) : Bool :=
  match canonicalTimestamp expiresAt with
  | none => true
  | some canonical => canonical ≤ now

/-! ## The request -/

def validId (value : String) (max : ℕ) : Bool :=
  value != "" && (asBytes value).length ≤ max && value.toList.all fun character =>
    isAlphanumericChar character || character == '_' || character == '-' || character == '.' ||
      character == ':'

/-- `required_approval_id`; the heads in use are ASCII. -/
def requiredApprovalId (value : Value) (head : String) : Option String := do
  let text ← value.asStr
  if (asBytes head).isPrefixOf (asBytes text) &&
      (asBytes head).length < (asBytes text).length && (asBytes text).length ≤ 128 &&
      (text.toList.drop head.length).all fun character =>
        isAlphanumericChar character || character == '_' || character == '-' || character == '.'
  then some text else none

/-- A text of an action: short, and without control characters. -/
def plainText (value : Value) : Bool :=
  value.asStr.any fun text => (asBytes text).length ≤ 4096 && !text.toList.any isControl

def approvalKinds : List String :=
  ["file_read", "file_write", "file_delete", "shell", "mcp_tool", "external_tool"]

/-- A member that may be missing. -/
def optional (name : String) (check : Value → Bool) (object : Map) : Bool :=
  match SortedMap.get name object with
  | none => true
  | some value => check value

def validApprovalAction (value : Value) : Bool :=
  match value.asObject with
  | none => false
  | some action =>
    ((SortedMap.get "kind" action).bind Value.asStr).any (fun kind => kind ∈ approvalKinds) &&
    optional "command" plainText action && optional "cwd" plainText action &&
    optional "relativePaths"
      (fun paths => match paths with
        | .array paths => paths.length ≤ 128 && paths.all plainText
        | _ => false) action

structure PendingApproval where
  requestId : String
  threadId : String
  turnId : String
  expiresAt : String
deriving DecidableEq

/-- The text of a member. -/
def textMember (name : String) (params : Map) : Option String :=
  (SortedMap.get name params).bind Value.asStr

def pendingApprovalFromRequest (frame : RpcFrame) : Option (String × PendingApproval) := do
  if frame.method ≠ some "approval/request" ||
      !(asBytes "s:").isPrefixOf (asBytes frame.idText) || (asBytes frame.idText).length ≤ 2 ||
      !validId frame.idText 128 then none
  else
    let params ← frame.params.bind Value.asObject
    let approvalId ← requiredApprovalId (← SortedMap.get "approvalId" params) "appr_"
    let threadId ← requiredApprovalId (← SortedMap.get "threadId" params) "thr_"
    let turnId ← requiredApprovalId (← SortedMap.get "turnId" params) "turn_"
    let _itemId ← requiredApprovalId (← SortedMap.get "itemId" params) "item_"
    let action ← SortedMap.get "action" params
    let expiresAt ← textMember "expiresAt" params
    if !validApprovalAction action ||
        !(textMember "risk" params).any (fun risk => risk ∈ ["low", "medium", "high", "critical"]) ||
        !(textMember "accessMode" params).any
          (fun mode => mode ∈ ["read_only", "workspace", "full_access"]) ||
        (canonicalTimestamp expiresAt).isNone then none
    else some (approvalId, ⟨frame.idText, threadId, turnId, expiresAt⟩)

end JaDesktop.Bridge
