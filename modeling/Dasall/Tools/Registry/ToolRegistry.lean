import Dasall.Contracts.Tool
import Dasall.Lib.OwnedIndex

/-!
# The tool registry

The registry publishes snapshots: the descriptors by name, the bindings to tools of MCP servers, each
with the source that it comes from, and a revision. A call works on a copy and publishes it at the end.
-/

open Dasall.Contracts.Tool Dasall.Lib Dasall.Lib.Text

namespace Dasall.Tools.Registry

def builtinSourceKey : Bytes := str "builtin.static"

structure MCPToolBinding where
  internalToolName : Bytes
  remoteToolName : Bytes
  serverId : Bytes
  remoteCapabilityId : Option Bytes := none
  inputSchemaRef : Option Bytes := none
deriving DecidableEq

/-- The tool, the server and the remote tool of a binding. -/
abbrev BindingKey := Bytes × Bytes × Bytes

/-! ## Bindings -/

abbrev MCPBindingRegistry := OwnedIndex BindingKey Bytes MCPToolBinding

def makeKey (binding : MCPToolBinding) : BindingKey :=
  (binding.internalToolName, binding.serverId, binding.remoteToolName)

def hasConsistentValues (binding : MCPToolBinding) : Bool :=
  !binding.internalToolName.isEmpty && !binding.remoteToolName.isEmpty && !binding.serverId.isEmpty

def putBinding (sourceKey : Bytes) (registry : MCPBindingRegistry) (binding : MCPToolBinding) :
    MCPBindingRegistry :=
  registry.reassign (makeKey binding) binding sourceKey

/-- The checks of a batch: no value is missing, and no key comes twice. -/
def acceptsBatch (bindings : List MCPToolBinding) : Bool :=
  bindings.all hasConsistentValues && decide (bindings.map makeKey).Nodup

def replaceSourceBindings (registry : MCPBindingRegistry) (sourceKey : Bytes)
    (bindings : List MCPToolBinding) : Option MCPBindingRegistry :=
  if sourceKey.isEmpty then none
  else if !acceptsBatch bindings then none
  else some (bindings.foldl (putBinding sourceKey) ((registry.revoke sourceKey).getD registry))

def revokeBindings (registry : MCPBindingRegistry) (sourceKey : Bytes) : Option MCPBindingRegistry :=
  if sourceKey.isEmpty then none else registry.revoke sourceKey

/-! ## Snapshots -/

structure ToolRegistrySnapshot where
  descriptors : OwnedIndex Bytes Bytes ToolDescriptor := {}
  mcpBindingRegistry : MCPBindingRegistry := {}
  revision : UInt64 := 0

def isBuiltinSource (sourceKey : Bytes) : Bool := sourceKey = builtinSourceKey

def accepts (descriptor : ToolDescriptor) : Bool :=
  (validateToolDescriptorFieldRules descriptor).isOk

namespace ToolRegistrySnapshot

def validateBindingBatch (snapshot : ToolRegistrySnapshot) (bindings : List MCPToolBinding) : Bool :=
  bindings.all fun binding => hasConsistentValues binding &&
    (snapshot.descriptors.records.lookup binding.internalToolName).isSome

/-- The descriptors from one on, where the names of those before it have been seen. -/
def validatePluginDescriptorBatch (snapshot : ToolRegistrySnapshot) :
    List Bytes → List ToolDescriptor → Bool
  | _, [] => true
  | seenToolNames, descriptor :: descriptors =>
    match descriptor.toolName with
    | none => false
    | some toolName =>
      accepts descriptor && !seenToolNames.contains toolName &&
        (snapshot.descriptors.records.lookup toolName).isNone &&
        snapshot.validatePluginDescriptorBatch (seenToolNames ++ [toolName]) descriptors

def upsertDescriptor (snapshot : ToolRegistrySnapshot) (descriptor : ToolDescriptor)
    (sourceKey : Bytes) : Option ToolRegistrySnapshot :=
  if sourceKey.isEmpty then none
  else
    match descriptor.toolName with
    | none => none
    | some toolName =>
      if !accepts descriptor then none
      else
        some { snapshot with
          descriptors := snapshot.descriptors.assign toolName descriptor sourceKey }

def revokeDescriptorsForSource (snapshot : ToolRegistrySnapshot) (sourceKey : Bytes) :
    Option ToolRegistrySnapshot :=
  (snapshot.descriptors.revoke sourceKey).map fun descriptors => { snapshot with descriptors }

/-! ## Calls -/

/-- A call that fails publishes nothing. -/
def publish (snapshot : ToolRegistrySnapshot) (next : Option ToolRegistrySnapshot) :
    ToolRegistrySnapshot × Bool :=
  match next with
  | none => (snapshot, false)
  | some next => ({ next with revision := snapshot.revision + 1 }, true)

def registerBuiltin (snapshot : ToolRegistrySnapshot) (descriptor : ToolDescriptor) :
    ToolRegistrySnapshot × Bool :=
  snapshot.publish (snapshot.upsertDescriptor descriptor builtinSourceKey)

def upsertAll (sourceKey : Bytes) :
    List ToolDescriptor → ToolRegistrySnapshot → Option ToolRegistrySnapshot
  | [], snapshot => some snapshot
  | descriptor :: descriptors, snapshot =>
    (snapshot.upsertDescriptor descriptor sourceKey).bind (upsertAll sourceKey descriptors)

def applyPluginExtensionDelta (snapshot : ToolRegistrySnapshot) (sourceKey : Bytes)
    (descriptors : List ToolDescriptor) : ToolRegistrySnapshot × Bool :=
  if sourceKey.isEmpty || isBuiltinSource sourceKey then (snapshot, false)
  else
    let revoked := snapshot.revokeDescriptorsForSource sourceKey
    let base := revoked.getD snapshot
    if !descriptors.isEmpty && !base.validatePluginDescriptorBatch [] descriptors then
      (snapshot, false)
    else if descriptors.isEmpty && revoked.isNone then (snapshot, false)
    else snapshot.publish (upsertAll sourceKey descriptors base)

def revokeMcpBindingsForSource (snapshot : ToolRegistrySnapshot) (sourceKey : Bytes) :
    ToolRegistrySnapshot × Bool :=
  if sourceKey.isEmpty || isBuiltinSource sourceKey then (snapshot, false)
  else
    snapshot.publish ((revokeBindings snapshot.mcpBindingRegistry sourceKey).map
      fun mcpBindingRegistry => { snapshot with mcpBindingRegistry })

def upsertMcpBindings (snapshot : ToolRegistrySnapshot) (sourceKey : Bytes)
    (bindings : List MCPToolBinding) : ToolRegistrySnapshot × Bool :=
  if bindings.isEmpty then snapshot.revokeMcpBindingsForSource sourceKey
  else if sourceKey.isEmpty || isBuiltinSource sourceKey then (snapshot, false)
  else if !snapshot.validateBindingBatch bindings then (snapshot, false)
  else
    snapshot.publish ((replaceSourceBindings snapshot.mcpBindingRegistry sourceKey bindings).map
      fun mcpBindingRegistry => { snapshot with mcpBindingRegistry })

/-- The descriptors of the source go, and then its bindings; one of them is enough to publish. -/
def revokeSource (snapshot : ToolRegistrySnapshot) (sourceKey : Bytes) :
    ToolRegistrySnapshot × Bool :=
  if sourceKey.isEmpty || isBuiltinSource sourceKey then (snapshot, false)
  else
    let withoutDescriptors := snapshot.revokeDescriptorsForSource sourceKey
    let base := withoutDescriptors.getD snapshot
    match revokeBindings base.mcpBindingRegistry sourceKey with
    | some mcpBindingRegistry => snapshot.publish (some { base with mcpBindingRegistry })
    | none => snapshot.publish withoutDescriptors

end ToolRegistrySnapshot

open ToolRegistrySnapshot

/-! ## Runs -/

/-- A new registry: the descriptors of the catalog that are accepted, at revision one if there is any. -/
def initialSnapshot (builtinDescriptors : List ToolDescriptor) : ToolRegistrySnapshot :=
  builtinDescriptors.foldl (fun snapshot descriptor =>
    match snapshot.upsertDescriptor descriptor builtinSourceKey with
    | none => snapshot
    | some next => { next with revision := 1 }) {}

inductive Operation
  | registerBuiltin (descriptor : ToolDescriptor)
  | applyPluginExtensionDelta (sourceKey : Bytes) (descriptors : List ToolDescriptor)
  | upsertMcpBindings (sourceKey : Bytes) (bindings : List MCPToolBinding)
  | revokeMcpBindingsForSource (sourceKey : Bytes)
  | revokeSource (sourceKey : Bytes)
deriving DecidableEq

def step (snapshot : ToolRegistrySnapshot) : Operation → ToolRegistrySnapshot × Bool
  | .registerBuiltin descriptor => snapshot.registerBuiltin descriptor
  | .applyPluginExtensionDelta sourceKey descriptors =>
    snapshot.applyPluginExtensionDelta sourceKey descriptors
  | .upsertMcpBindings sourceKey bindings => snapshot.upsertMcpBindings sourceKey bindings
  | .revokeMcpBindingsForSource sourceKey => snapshot.revokeMcpBindingsForSource sourceKey
  | .revokeSource sourceKey => snapshot.revokeSource sourceKey

end Dasall.Tools.Registry
