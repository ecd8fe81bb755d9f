import VulkanBridge.EntryPoint
import VulkanBridge.Trace
import VulkanBridge.Instance.Lifecycle
import VulkanBridge.Instance.Enumeration
import VulkanBridge.Device.Lifecycle
import VulkanBridge.CommandPool
import VulkanBridge.CommandBuffer.Recording
import VulkanBridge.Submission
import VulkanBridge.Fence
import VulkanBridge.Proofs.OwnedMemory
import VulkanBridge.Proofs.References
import VulkanBridge.Proofs.Contexts
import VulkanBridge.Proofs.Inheritance
import VulkanBridge.Proofs.Recording
import VulkanBridge.Proofs.Holdings
import VulkanBridge.Proofs.Lifetimes
import VulkanBridge.Proofs.CountedMap
import VulkanBridge.Proofs.Handles
import VulkanBridge.Proofs.Isolation
import VulkanBridge.Proofs.Listing
import VulkanBridge.Proofs.Creation
import VulkanBridge.Proofs.Execution
import VulkanBridge.Proofs.Wrapping
import VulkanBridge.Proofs.Submissions
import VulkanBridge.Proofs.Dismantling
import VulkanBridge.Proofs.Population
import VulkanBridge.Proofs.Founding
import VulkanBridge.Proofs.Sizes
import VulkanBridge.Proofs.Resolution
import VulkanBridge.Proofs.QueueLookup
import VulkanBridge.Proofs.Registration
import VulkanBridge.Proofs.Registration
import VulkanBridge.Proofs.Scratch
