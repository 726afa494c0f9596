import MemoryListing.Block
import MemoryListing.Main
import MemoryListing.Proofs.BadSymbols
import MemoryListing.Proofs.BadWords
import MemoryListing.Proofs.BaseAddress
import MemoryListing.Proofs.BoundedOutput
import MemoryListing.Proofs.ByteLines
import MemoryListing.Proofs.Complaints
import MemoryListing.Proofs.Contiguity
import MemoryListing.Proofs.Diagnostics
import MemoryListing.Proofs.DigitOrder
import MemoryListing.Proofs.GapPolicies
import MemoryListing.Proofs.JoinedTexts
import MemoryListing.Proofs.Names
import MemoryListing.Proofs.NormalNames
import MemoryListing.Proofs.PastedTable
import MemoryListing.Proofs.Paths
import MemoryListing.Proofs.PrintedNumbers
import MemoryListing.Proofs.Rejections
import MemoryListing.Proofs.Respacing
import MemoryListing.Proofs.SharedAddresses
import MemoryListing.Proofs.ShownBytes
import MemoryListing.Proofs.Spellings
import MemoryListing.Proofs.StableSort
import MemoryListing.Proofs.Stages
import MemoryListing.Proofs.TableOrder
import MemoryListing.Proofs.TableText
import MemoryListing.Proofs.TopOfMemory
import MemoryListing.Proofs.Unambiguity
import MemoryListing.Proofs.WrittenDumps
