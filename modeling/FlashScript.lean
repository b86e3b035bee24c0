import FlashScript.Firmware
import FlashScript.Loader
import FlashScript.Main
import FlashScript.Proofs.Emission
import FlashScript.Proofs.Words
import FlashScript.Proofs.Execution
import FlashScript.Proofs.History
import FlashScript.Proofs.Placement
import FlashScript.Proofs.Feeding
import FlashScript.Proofs.Capacity
import FlashScript.Proofs.Failures
import FlashScript.Proofs.Diagnosis
import FlashScript.Proofs.Simulation
import FlashScript.Proofs.Bounds
import FlashScript.Proofs.Refusal
import FlashScript.Proofs.Codec
import FlashScript.Proofs.Entry
import FlashScript.Proofs.Digits
import FlashScript.Proofs.Grammar
import FlashScript.Proofs.RoundTrip
import FlashScript.Proofs.Canonical
import FlashScript.Proofs.Misprints
import FlashScript.Proofs.Composition
import FlashScript.Proofs.Minimality
import FlashScript.Proofs.Advance
import FlashScript.Proofs.Contents
import FlashScript.Proofs.FileStore
import FlashScript.Proofs.Atomicity
import FlashScript.Proofs.Overflow
import FlashScript.Proofs.Decoding
import FlashScript.Proofs.Insertion
import FlashScript.Proofs.LineEndings
import FlashScript.Proofs.Segments
import FlashScript.Proofs.Merging
import FlashScript.Proofs.Accounting
import FlashScript.Proofs.Choice
import FlashScript.Proofs.Encoding
import FlashScript.Proofs.Prompts
import FlashScript.Proofs.Lockstep
