import VulkanPrefill.Main
import VulkanPrefill.Proofs.Verdict
import VulkanPrefill.Proofs.InitializerTable
import VulkanPrefill.Proofs.CoreHeader
import VulkanPrefill.Proofs.FunctionNames
import VulkanPrefill.Proofs.StructKeys
import VulkanPrefill.Proofs.NameParts
import VulkanPrefill.Proofs.Legible
import VulkanPrefill.Proofs.CommandRun
import VulkanPrefill.Proofs.HeaderLog
import VulkanPrefill.Proofs.Insertion
import VulkanPrefill.Proofs.LineEndings
import VulkanPrefill.Proofs.LineCut
import VulkanPrefill.Proofs.BlockPlace
import VulkanPrefill.Proofs.Concatenation
import VulkanPrefill.Proofs.StructNames
import VulkanPrefill.Proofs.VerbosityMarks
import VulkanPrefill.Proofs.Verbosity
import VulkanPrefill.Proofs.Spellings
