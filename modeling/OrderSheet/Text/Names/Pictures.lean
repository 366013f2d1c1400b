import OrderSheet.Text.Names.Run

/-!
# Names of signs and pictures

The characters from U+16800 to U+E007F.
-/

namespace OrderSheet.Text

def pictureNames : List NameRun := [
  ⟨0x16800, ["BAMUM LETTER PHASE-A NGKUE MFON,cGBIEE FON,cPON MFON PIPAEMGBIEE,ePIPAEMBA",
    "cNAA MFON,cSHUENSHUET,cTITA MFON,cNZAa,cSHINDA PA NJI,cPON PA NJI PIPAEMGBIEE,fPIPAEMBA",
    "cMAEMBGBIEE,cTU MAEMBA,cNGANGU,cMAEMVEUX,cMANSUAE,cMVEUAENGAM,cSEUNYAM,cNTOQPEN,cKEUKEUTNDA",
    "cNKINDI,cSUU,cNGKUENZEUM,cLAPAQ,cLET KUT,cNTAP MFAA,cMAEKEUP,cPASHAE,cGHEUAERAE,cPAMSHAE",
    "cMON NGGEUAET,cNZUN MEUT,cU YUQ NAE,cGHEUAEGHEUAE,cNTAP NTAA,cSISA,cMGBASA,cMEUNJOMNDEUQ",
    "cMOOMPUQ,cKAFA,cPA LEERAEWA,cNDAa,cPET,cMAEMKPEN,cNIKA,cPUP,cTUAEP,cLUAEP,cSONJAM",
    "cTEUTEUWEN,cMAENYI,cKET,cNDAANGGEUAET,cKUOQ,cMOOMEUT,cSHUM,cLOMMAE,cFIRI,cROM,cKPOQ,cSOQ",
    "cMAP PIEET,cSHIRAE,cNTAP,cSHOQ NSHUT YUM,cNYIT MONGKEUAEQ,cPAARAE,cNKAARAE,cUNKNOWN,cNGGEN",
    "cMAESI,cNJAM,cMBANYI,cNYET,cTEUAEN,cSOT,cPAAM,cNSHIEE,cMAEM,cNYI,cKAQ,cNSHA,cVEE,cLU,cNEN",
    "cNAQ,cMBAQ,bPHASE-B NSHUET,cTU MAEMGBIEE,cSIEE,cSET TU,cLOM NTEUM,cMBA MAELEE,cKIEEM",
    "cYEURAE,cMBAARAE,cKAM,cPEESHI,cYAFU LEERAEWA,cLAM NSHUT NYAM,cNTIEE SHEUOQ,cNDU NJAA",
    "cGHEUGHEUAEM,cPIT,cTU NSIEE,cSHET NJAQ,cSHEUAEQTU,cMFON TEUAEQ,cMBIT MBAAKET,cNYI NTEUM",
    "cKEUPUQ,cGHEUGHEN,cKEUYEUX,cLAANAE,cPARUM,cVEUM,cNGKINDI MVOP,cNGGEU MBU,cWUAET,cSAKEUAE",
    "cTAAM,cMEUQ,cNGGUOQ,dLARGE,cMFIYAQ,cSUE,cMBEURI,cMONTIEEN,cNYAEMAE,cPUNGAAM,cMEUT NGGEET",
    "cFEUX,cMBUOQ,cFEE,cKEUAEM,cMA NJEUAENA,dNJUQA,cLET,cNGGAAM,cNSEN,cMA,cKIQ,cNGOM",
    "bPHASE-C NGKUE MAEMBA,cNZA,cYUM,cWANGKUOQ,cNGGEN,cNDEUAEREE,cNGKAQ,cGHARAE,cMBEEKEET,cGBAYI",
    "cNYIR MKPARAQ MEUN,cNTU MBIT,cMBEUM,cPIRIEEN,cNDOMBU,cMBAA CABBAGE-TREE,cKEUSHEUAEP,cGHAP",
    "cKEUKAQ,cYU MUOMAE,cNZEUM,cMBUE,cNSEUAEN,cMBIT,cYEUQ,cKPARAQ,cKAA,cSEUX,cNDIDA,cTAASHAE",
    "cNJUEQ,cTITA YUE,cSUAET,cNGGUAEN NYAM,cVEUX,cNANSANAQ,cMA KEUAERI,cNTAA,cNGGUON,cLAP",
    "cMBIRIEEN,cMGBASAQ,cNTEUNGBA,cTEUTEUX,cNGGUM,cFUE,cNDEUT,cNSA,cNSHAQ,cBUNG,cVEUAEPEN",
    "cMBERAE,cRU,cNJAEM,cLAM,cTITUAEP,cNSUOT NGOM,cNJEEEE,cKET,cNGGU,cMAESI,cMBUAEM,cLU,cKUT",
    "cNJAM,cNGOM,cWUP,cNGGUEET,cNSOM,cNTEN,cKUOP NKAARAE,cNSUN,cNDAM,cMA NSIEE,cYAA,cNDAP,cSHUEQ",
    "cSETFON,cMBI,cMAEMBA,cMBANYI,cKEUSEUX,cMBEUX,cKEUM,cMBAA PICKET,cYUWOQ,cNJEUX,cMIEE,cMUAE",
    "cSHIQ,cKEN LAW,dFATIGUE,cNGAQ,cNAQ,cLIQ,cPIN,cPEN,cTET,bPHASE-D MBUO,cWAP,cNJI,cMFON,cNJIEE",
    "cLIEE,cNJEUT,cNSHEE,cNGGAAMAE,cNYAM,cWUAEN,cNGKUN,cSHEE,cNGKAP,cKEUAETMEUN,cTEUT,cSHEUAE",
    "cNJAP,cSUE,cKET,cYAEMMAE,cKUOM,cSAP,cMFEUT,cNDEUX,cMALEERI,cMEUT,cSEUAEQ,cYEN,cNJEUAEM",
    "cKEUOT MBUAE,cNGKEURI,cTU,cGHAA,cNGKYEE,cFEUFEUAET,cNDEE,cMGBOFUM,cLEUAEP,cNDON,cMONI",
    "cMGBEUN,cPUUT,cMGBIEE,cMFO,cLUM,cNSIEEP,cMBAA,cKWAET,cNYET,cTEUAEN,cSOT,cYUWOQ,cKEUM,cRAEM",
    "cTEEEE,cNGKEUAEQ,cMFEUAE,cNSIEET,cKEUP,cPIP,cPEUTAE,cNYUE,cLET,cNGGAAM,cMFIEE,cNGGWAEN",
    "cYUOM,cPAP,cYUOP,cNDAM,cNTEUM,cSUAE,cKUN,cNGGEUX,cNGKIEE,cTUOT,cMEUN,cKUQ,cNSUM,cTEUN",
    "cMAENJET,cNGGAP,cLEUM,cNGGUOM,cNSHUT,cNJUEQ,cGHEUAE,cKU,cREN OLD,cTAE,cTOQ,cNYI,cRII,cLEEEE",
    "cMEEEE,cM,cSUU,cMU,cSHII,cSHEUX,cKYEE,cNU,cSHU,cNTEE,cPEE,cNI,cSHOQ,cPUQ,cMVOP,cLOQ",
    "cREN MUCH,cTI,cNTUU,cMBAA SEVEN,cSAQ,cFAA,bPHASE-E NDAP,cTOON,cMBEUM,cLAP,cVOM,cLOON,cPAA",
    "cSOM,cRAQ,cNSHUOP,cNDUN,cPUAE,cTAM,cNGKA,cKPEUX,cWUO,cSEE,cNGGEUAET,cPAAM,cTOO,cKUOP,cLOM",
    "cNSHIEE,cNGOP,cMAEM,cNGKEUX,cNGOQ,cNSHUE,cRIMGBA,cNJEUX,cPEEM,cSAA,cNGGURAE,cMGBA,cGHEUX",
    "cNGKEUAEM,cNJAEMLI,cMAP,cLOOT,cNGGEEEE,cNDIQ,cTAEN NTEUM,cSET,cPUM,cNDAA SOFTNESS",
    "cNGGUAESHAE NYAM,cYIEE,cGHEUN,cTUAE,cYEUAE,cPO,cTUMAE,cKEUAE,cSUAEN,cTEUAEQ,cVEUAE,cWEUX",
    "cLAAM,cPU,cTAAQ,cGHAAMAE,cNGEUREUT,cSHEUAEQ,cMGBEN,cMBEE,cNZAQ,cNKOM,cGBET,cTUM,cKUET,cYAP",
    "cNYI CLEAVER,cYIT,cMFEUQ,cNDIAQ,cPIEEQ,cYUEQ,cLEUAEM,cFUE,cGBEUX,cNGKUP,cKET,cMAE,cNGKAAMI",
    "cGHET,cFA,cNTUM,cPEUT,cYEUM,cNGGEUAE,cNYI BETWEEN,cNZUQ,cPOON,cMIEE,cFUET,cNAE,cMUAE",
    "cGHEUAE,cFU I,cMVI,cPUAQ,cNGKUM,cKUT,cPIET,cNTAP,cYEUAET,cNGGUP,cPA PEOPLE,cFU CALL,cFOM",
    "cNJEE,cA,cTOQ,cO,cI,cLAQ,cPA PLURAL,cTAA,cTAQ,cNDAA MY HOUSE,cSHIQ,cYEUX,cNGUAE,cYUAEN",
    "cYOQ SWIMMING,dCOVER,cYUQ,cYUN,cKEUX,cPEUX,cNJEE EPOCH,cPUE,cWUE,cFEE,cVEE,cLU,cMI,cREUX",
    "cRAE,cNGUAET,cNGA,cSHO,cSHOQ,cFU REMEDY,cNA,cPI,cLOQ,cKO,cMEN,cMA,cMAQ,cTEU,cKI,cMON,cTEN",
    "cFAQ,cGHOM,bPHASE-F KA,cU,cKU,cEE,cREE,cTAE,cNYI,cLA,cRII,cRIEE,cMEEEE,cTAA,cNDAA,cNJAEM,cM",
    "cSUU,cSHII,cSI,cSEUX,cKYEE,cKET,cNUAE,cNU,cNJUAE,cYOQ,cSHU,cYA,cNSHA,cPEUX,cNTEE,cWUE,cPEE",
    "cRU,cNI,cREUX,cKEN,cNGKWAEN,cNGGA,cSHO,cPUAE,cFOM,cWA,cLI,cLOQ,cKO,cMBEN,cREN,cMA,cMO,cMBAA",
    "cTET,cKPA,cSAMBA,cVUEQ,,,,,,,,MRO LETTER TA,bNGI,bYO,bMIM,bBA,bDA,bA,bPHI,bKHAI,bHAO,bDAI",
    "bCHU,bKEAAE,bOL,bMAEM,bNIN,bPA,bOO,bO,bRO,bSHI,bTHEA,bEA,bWA,bE,bKO,bLAN,bLA,bHAI,bRI,bTEK,",
    "aDIGIT ZERO,bONE,bTWO,bTHREE,bFOUR,bFIVE,bSIX,bSEVEN,bEIGHT,bNINE,,,,,aDANDA,aDOUBLEa",
    "TANGSA LETTER OZ,bOC,bOQ,bOX,bAZ,bAC,bAQ,bAX,bVZ,bVC,bVQ,bVX,bEZ,bEC,bEQ,bEX,bIZ,bIC,bIQ",
    "bIX,bUZ,bUC,bUQ,bUX,bAWZ,bAWC,bAWQ,bAWX,bUIZ,bUIC,bUIQ,bUIX,bFINAL NG,bLONG UEX,bSHORT UEZ",
    "cAWX,bUEC,bUEZ,bUEQ,bUEX,bUIUZ,bUIUC,bUIUQ,bUIUX,bMZ,bMC,bMQ,bMX,bKA,bKHA,bGA,bNGA,bSA,bYA",
    "bWA,bPA,bNYA,bPHA,bBA,bMA,bNA,bHA,bLA,bHTA,bTA,bDA,bRA,bNHA,bSHA,bCA,bTSA,bGHA,bHTTA,bTHA",
    "bXA,bFA,bDHA,bCHA,bZA,,aDIGIT ZERO,bONE,bTWO,bTHREE,bFOUR,bFIVE,bSIX,bSEVEN,bEIGHT,bNINE,,,",
    ",,,BASSA VAH LETTER ENNI,cKA,cSE,cFA,cMBE,cYIE,cGAH,cDHII,cKPAH,cJO,cHWAH,cWA,cZO,cGBU,cDO",
    "cCE,cUWU,cTO,cBA,cVU,cYEIN,cPA,cWADDA,cA,cO,cOO,cU,cEE,cE,cI,,,bCOMBINING HIGH TONE,cLOWa",
    "cMIDa,cLOW-MIDa,cHIGH-LOWa,bFULL STOP,,,,,,,,,,,PAHAWH HMONG VOWEL KEEB,cKEEV,cKIB,cKIV",
    "cKAUB,cKAUV,cKUB,cKUV,cKEB,cKEV,cKAIB,cKAIV,cKOOB,cKOOV,cKAWB,cKAWV,cKUAB,cKUAV,cKOB,cKOV",
    "cKIAB,cKIAV,cKAB,cKAV,cKWB,cKWV,cKAAB,cKAAV,bCONSONANT VAU,cNTSAU,cLAU,cHAU,cNLAU,cRAU",
    "cNKAU,cQHAU,cYAU,cHLAU,cMAU,cCHAU,cNCHAU,cHNAU,cPLHAU,cNTHAU,cNAU,cAU,cXAU,cCAU",
    "bMARK CIM TUB,dSO,dKES,dKHAV,dSUAM,dHOM,dTAUM,bSIGN VOS THOM,dTSHAB CEEB,cCIM CHEEM",
    "cVOS THIAB,dFEEM,cXYEEM NTXIV,dRHO,dTOV,dFAIB,cVOS SEEV,cMEEJ SUAB,cVOS NRUA,cIB YAM,cXAUS",
    "cCIM TSOV ROG,,,,,,,,,,,bDIGIT ZERO,cONE,cTWO,cTHREE,cFOUR,cFIVE,cSIX,cSEVEN,cEIGHT,cNINE,",
    "bNUMBER TENS,cHUNDREDS,cTEN THOUSANDS,cMILLIONS,cHUNDREDa,cTEN BILLIONS,cTRILLIONS,",
    "bSIGN VOS LUB,cXYOO,cHLI,cTHIRD-STAGEa,cZWJ THAJ,cHNUB,cNQIG,cXIAB,cNTUJ,cAV,cTXHEEJ CEEV",
    "cMEEJ TSEEB,cTAU,cLOS,cMUS,cCIM HAIS LUS NTOG NTOG,dCUAM TSHOOJ,dTXWV,eCHWV,dPUB DAWB",
    "dNRES TOS,,,,,,bCLAN SIGN TSHEEJ,dYEEG,dLIS,dLAUJ,dXYOOJ,dKOO,dHAWJ,dMUAS,dTHOJ,dTSAB,dPHAB",
    "dKHAB,dHAM,dVAJ,dFAJ,dYAJ,dTSWB,dKWM,dVWJ"]⟩,
  ⟨0x16E40, ["MEDEFAIDRIN CAPITAL LETTER M,cS,cV,cW,cATIU,cZ,cKP,cP,cT,cG,cF,cI,cK,cA,cJ,cE,cB",
    "cC,cU,cYU,cL,cQ,cHP,cNY,cX,cD,cOE,cN,cR,cO,cAI,cY,aSMALL LETTER M,cS,cV,cW,cATIU,cZ,cKP,cP",
    "cT,cG,cF,cI,cK,cA,cJ,cE,cB,cC,cU,cYU,cL,cQ,cHP,cNY,cX,cD,cOE,cN,cR,cO,cAI,cY,aDIGIT ZERO",
    "bONE,bTWO,bTHREE,bFOUR,bFIVE,bSIX,bSEVEN,bEIGHT,bNINE,aNUMBER TEN,bELEVEN,bTWELVE,bTHIRTEEN",
    "bFOURTEEN,bFIFTEEN,bSIXTEEN,bSEVENTEEN,bEIGHTEEN,bNINETEEN,aDIGIT ONE ALTERNATE FORM,bTWOb",
    "bTHREEb,aCOMMA,aFULL STOP,aSYMBOL AIVA,aEXCLAMATION OH"]⟩,
  ⟨0x16F00, ["MIAO LETTER PA,bBA,bYI PA,bPLA,bMA,bMHA,bARCHAIC MA,bFA,bVA,bVFA,bTA,bDA,bYI TTA",
    "cTA,bTTA,bDDA,bNA,bNHA,bYI NNA,bARCHAIC NA,bNNA,bNNHA,bLA,bLYA,bLHA,bLHYA,bTLHA,bDLHA",
    "bTLHYA,bDLHYA,bKA,bGA,bYI KA,bQA,bQGA,bNGA,bNGHA,bARCHAIC NGA,bHA,bXA,bGHA,bGHHA,bTSSA",
    "bDZZA,bNYA,bNYHA,bTSHA,bDZHA,bYI TSHA,cDZHA,bREFORMED TSHA,bSHA,bSSA,bZHA,bZSHA,bTSA,bDZA",
    "bYI TSA,bSA,bZA,bZSA,bZZA,bZZSA,bARCHAIC ZZA,bZZYA,bZZSYA,bWA,bAH,bHHA,bBRI,bSYI,bDZYI,bTE",
    "bTSE,bRTE,,,,,aSIGN CONSONANT MODIFIER BAR,aLETTER NASALIZATION,aSIGN ASPIRATION",
    "bREFORMED VOICING,cASPIRATION,aVOWEL SIGN A,cAA,cAHH,cAN,cANG,cO,cOO,cWO,cW,cE,cEN,cENG",
    "cOEY,cI,cIA,cIAN,cIANG,cIO,cIE,cII,cIU,cING,cU,cUA,cUAN,cUANG,cUU,cUEI,cUNG,cY,cYI,cAE,cAEE",
    "cERR,cROUNDEDa,cER,cROUNDEDa,cAI,cEI,cAU,cOU,cN,cNG,cUOG,cYUI,cOG,cOER,cVW,cIG,cEA,cIONG",
    "cUI,,,,,,,,aTONE RIGHT,bTOPa,bABOVE,bBELOW,aLETTER TONE-2,bTONE-3,bTONE-4,bTONE-5,bTONE-6",
    "bTONE-7,bTONE-8,bREFORMED TONE-1,cTONE-2,cTONE-4,cTONE-5,cTONE-6,cTONE-8"]⟩,
  ⟨0x16FE0, ["TANGUT ITERATION MARK,NUSHUb,OLD CHINESE HOOKa,bITERATIONa",
    "KHITAN SMALL SCRIPT FILLER,,,,,,,,,,,,VIETNAMESE ALTERNATE READING MARK CA,dNHAY"]⟩,
  ⟨0x1AFF0, ["KATAKANA LETTER MINNAN TONE-2,cTONE-3,cTONE-4,cTONE-5,,cTONE-7,cTONE-8",
    "cNASALIZED TONE-1,dTONE-2,dTONE-3,dTONE-4,dTONE-5,,dTONE-7,dTONE-8,,bARCHAIC E",
    "HIRAGANA LETTER ARCHAIC YE,HENTAIGANA LETTER A-1,bA-2,bA-3,bA-WO,bI-1,bI-2,bI-3,bI-4,bU-1",
    "bU-2,bU-3,bU-4,bU-5,bE-2,bE-3,bE-4,bE-5,bE-6,bO-1,bO-2,bO-3,bKA-1,bKA-2,bKA-3,bKA-4,bKA-5",
    "bKA-6,bKA-7,bKA-8,bKA-9,bKA-10,bKA-11,bKA-KE,bKI-1,bKI-2,bKI-3,bKI-4,bKI-5,bKI-6,bKI-7",
    "bKI-8,bKU-1,bKU-2,bKU-3,bKU-4,bKU-5,bKU-6,bKU-7,bKE-1,bKE-2,bKE-3,bKE-4,bKE-5,bKE-6,bKO-1",
    "bKO-2,bKO-3,bKO-KI,bSA-1,bSA-2,bSA-3,bSA-4,bSA-5,bSA-6,bSA-7,bSA-8,bSI-1,bSI-2,bSI-3,bSI-4",
    "bSI-5,bSI-6,bSU-1,bSU-2,bSU-3,bSU-4,bSU-5,bSU-6,bSU-7,bSU-8,bSE-1,bSE-2,bSE-3,bSE-4,bSE-5",
    "bSO-1,bSO-2,bSO-3,bSO-4,bSO-5,bSO-6,bSO-7,bTA-1,bTA-2,bTA-3,bTA-4,bTI-1,bTI-2,bTI-3,bTI-4",
    "bTI-5,bTI-6,bTI-7,bTU-1,bTU-2,bTU-3,bTU-4,bTU-TO,bTE-1,bTE-2,bTE-3,bTE-4,bTE-5,bTE-6,bTE-7",
    "bTE-8,bTE-9,bTO-1,bTO-2,bTO-3,bTO-4,bTO-5,bTO-6,bTO-RA,bNA-1,bNA-2,bNA-3,bNA-4,bNA-5,bNA-6",
    "bNA-7,bNA-8,bNA-9,bNI-1,bNI-2,bNI-3,bNI-4,bNI-5,bNI-6,bNI-7,bNI-TE,bNU-1,bNU-2,bNU-3,bNE-1",
    "bNE-2,bNE-3,bNE-4,bNE-5,bNE-6,bNE-KO,bNO-1,bNO-2,bNO-3,bNO-4,bNO-5,bHA-1,bHA-2,bHA-3,bHA-4",
    "bHA-5,bHA-6,bHA-7,bHA-8,bHA-9,bHA-10,bHA-11,bHI-1,bHI-2,bHI-3,bHI-4,bHI-5,bHI-6,bHI-7,bHU-1",
    "bHU-2,bHU-3,bHE-1,bHE-2,bHE-3,bHE-4,bHE-5,bHE-6,bHE-7,bHO-1,bHO-2,bHO-3,bHO-4,bHO-5,bHO-6",
    "bHO-7,bHO-8,bMA-1,bMA-2,bMA-3,bMA-4,bMA-5,bMA-6,bMA-7,bMI-1,bMI-2,bMI-3,bMI-4,bMI-5,bMI-6",
    "bMI-7,bMU-1,bMU-2,bMU-3,bMU-4,bME-1,bME-2,bME-MA,bMO-1,bMO-2,bMO-3,bMO-4,bMO-5,bMO-6,bYA-1",
    "bYA-2,bYA-3,bYA-4,bYA-5,bYA-YO,bYU-1,bYU-2,bYU-3,bYU-4,bYO-1,bYO-2,bYO-3,bYO-4,bYO-5,bYO-6",
    "bRA-1,bRA-2,bRA-3,bRA-4,bRI-1,bRI-2,bRI-3,bRI-4,bRI-5,bRI-6,bRI-7,bRU-1,bRU-2,bRU-3,bRU-4",
    "bRU-5,bRU-6,bRE-1,bRE-2,bRE-3,bRE-4,bRO-1,bRO-2,bRO-3,bRO-4,bRO-5,bRO-6,bWA-1,bWA-2,bWA-3",
    "bWA-4,bWA-5,bWI-1,bWI-2,bWI-3,bWI-4,bWI-5,bWE-1,bWE-2,bWE-3,bWE-4,bWO-1,bWO-2,bWO-3,bWO-4",
    "bWO-5,bWO-6,bWO-7,bN-MU-MO-1,bN-MU-MO-2,HIRAGANA LETTER ARCHAIC WU",
    "KATAKANA LETTER ARCHAIC YI,cYE,cWU"]⟩,
  ⟨0x1B150, ["HIRAGANA LETTER SMALL WI,cWE,cWO"]⟩,
  ⟨0x1B164, ["KATAKANA LETTER SMALL WI,cWE,cWO,cN"]⟩,
  ⟨0x1BC00, ["DUPLOYAN LETTER H,bX,bP,bT,bF,bK,bL,bB,bD,bV,bG,bR,bP N,bD S,bF N,bK M,bR S,bTH",
    "bSLOAN DH,bDH,bKK,bSLOAN J,bHL,bLH,bRH,bM,bN,bJ,bS,bM N,bN M,bJa,bS J,bM WITH DOT,bNb,bJb",
    "dDOTS INSIDE AND ABOVE,bS WITH DOT,eBELOW,bM S,bNa,bJa,bSa,bM Na,bN Ma,bJb,bS Ja",
    "bJ S WITH DOT,cN,dS,bS T,dR,cP,dR,bT S,cRa,bW,bWH,bW R,bS N,cM,bK R S,bGb,bS K,dR,bA",
    "bSLOAN OW,bOA,bO,bAOU,bI,bE,bIE,bSHORT I,bUI,bEE,bSLOAN EH,bROMANIAN I,bSLOAN EE,bLONG I",
    "bYE,bU,bEU,bXW,bU N,bLONG U,bROMANIANa,bUH,bSLOAN U,bOOH,bOW,bOU,bWA,bWO,bWI,bWEI,bWOW",
    "bNASAL U,cO,cI,cA,bPERNIN AN,cAM,bSLOAN EN,cAN,cON,bVOCALIC M,,,,,",
    "aAFFIX LEFT HORIZONTAL SECANT,bMIDb,bRIGHTb,bLOW VERTICALa,bMIDb,bHIGHb,bATTACHEDa",
    "cLEFT-TO-RIGHTa,cTANGENT,cTAIL,cE HOOK,cIa,cTANGENTa,,,,bHIGH ACUTE,cTIGHTa,cGRAVE,cLONGa",
    "cDOT,cCIRCLE,cLINE,cWAVE,cVERTICAL,,,,,,,,bLOW ACUTE,cTIGHTa,cGRAVE,cLONGa,cDOT,cCIRCLE",
    "cLINE,cWAVE,cVERTICAL,cARROW,,,aSIGN O WITH CROSS,aTHICK LETTER SELECTOR,aDOUBLE MARK",
    "aPUNCTUATION CHINOOK FULL STOP,SHORTHAND FORMAT LETTER OVERLAP,bCONTINUINGa,bDOWN STEP,bUPa"]⟩,
  ⟨0x1CF00, ["ZNAMENNY COMBINING MARK GORAZDO NIZKO S KRYZHEM ON LEFT,cNIZKO S KRYZHEM ON LEFT",
    "cTSATAb,cGORAZDO NIZKOb,cNIZKO ON LEFT,cSREDNEb,cMALO POVYSHEb,cPOVYSHE ON LEFT,cVYSOKOb",
    "cMALO POVYSHE S KHOKHLOMb,cPOVYSHE S KHOKHLOM ON LEFT,cVYSOKOd",
    "cGORAZDO NIZKO S KRYZHEM ON RIGHT,cNIZKO S KRYZHEM ON RIGHT,cTSATAb,cGORAZDO NIZKOb",
    "cNIZKO ON RIGHT,cSREDNEb,cMALO POVYSHEb,cPOVYSHE ON RIGHT,cVYSOKOb",
    "cMALO POVYSHE S KHOKHLOMb,cPOVYSHE S KHOKHLOM ON RIGHT,cVYSOKOd,cTSATA S KRYZHEM",
    "cMALO POVYSHEb,cSTRANNO MALO POVYSHE,cPOVYSHE S KRYZHEM,dSTRANNO,cVYSOKO S KRYZHEM",
    "cMALO POVYSHE STRANNO,cGORAZDO VYSOKO,cZELO,cON,cRAVNO,cTIKHAYA,cBORZAYA,cUDARKA,cPODVERTKA",
    "cLOMKA,cKUPNAYA,cKACHKA,cZEVOK,cSKOBA,cRAZSEKA,cKRYZH ON LEFT,,,bTONAL RANGE MARK MRACHNO",
    "eSVETLO,eTRESVETLO,bMARK ZADERZHKA,cDEMESTVENNYa,cOTSECHKA,cPODCHASHIE",
    "dWITH VERTICAL STROKE,cCHASHKA,dPOLNAYA,cOBLACHKO,cSOROCHYA NOZHKA,cTOCHKA,cDVOETOCHIE",
    "bATTACHING VERTICAL OMET,bMARK CURVEDa,cKRYZH,bLOWER TONAL RANGE INDICATOR",
    "aPRIZNAK MODIFIER LEVEL-2,cLEVEL-3,cDIRECTION FLIP,cKRYZH,cROG,,,,,,,,,,aNEUME KRYUK,cTIKHY",
    "bPARAKLIT,bDVA V CHELNU,bKLYUCH,bZANOZHEK,bSTOPITSA,cS OCHKOM,bPEREVODKA,cNEPOSTOYANNAYA",
    "bSTOPITSA WITH SOROCHYA NOZHKA,bCHELYUSTKA,bPALKA,bZAPYATAYA,bGOLUBCHIK BORZY,cTIKHY",
    "cMRACHNY,cSVETLY,cTRESVETLY,bVRAKHIYA PROSTAYA,cMRACHNAYA,cSVETLAYA,cTRESVETLAYA",
    "cKLYUCHEVAYA PROSTAYA,dMRACHNAYA,dSVETLAYA,dTRESVETLAYA,bDOUBLE ZAPYATAYA",
    "bREVERSED CHELYUSTKA,bDERBITSA,bKHAMILO,bCHASHKA,bPODCHASHIE,bSKAMEYTSA MRACHNAYA,cSVETLAYA",
    "cTRESVETLAYA,cTIKHAYA,bDEMESTVENNY KLYUCH,bSKAMEYTSA KLYUCHEVAYA SVETLAYA",
    "cKLYUCHENEPOSTOYANNAYA,cKLYUCHEVAYA TIKHAYA,cDVOECHELNAYA PROSTAYA,dSVETLAYA",
    "dNEPOSTOYANNAYA,dKLYUCHEVAYA,bSLOZHITIE,cS ZAPYATOY,cZAKRYTOE,cS KRYZHEM,bKRYZH,bROG,bFITA",
    "bKOBYLA,bZMEYTSA,bSTATYA,cS ZAPYATOY,dKRYZHEM,dZAPYATOY Ia,dKRYZHEM I ZAPYATOY,cZAKRYTAYA",
    "dS ZAPYATOY,cS ROGOM,dDVUMYA ZAPYATYMI,dZAPYATOY I PODCHASHIEM,bPOLKULIZMY",
    "bSTATYA NEPOSTOYANNAYA,bSTRELA PROSTAYA,cMRACHNOTIKHAYA,cKRYZHEVAYA,cPOLUPOVODNAYA",
    "cPOVODNAYA,cNEPOSTOYANNAYA,cKLYUCHEPOVODNAYA,cKLYUCHENEPOSTOYANNAYA,cTIKHAYA PUTNAYA",
    "cDVOECHELNAYA,cDVOECHELNOKRYZHEVAYA,cDVOECHELNOPOVODNAYA,cDVOECHELNAYA KLYUCHEVAYA",
    "cDVOECHELNOPOVODNAYAa,cGROMNAYA WITH SINGLE ZAPYATAYA,cGROMOPOVODNAYAc,cGROMNAYA",
    "cGROMOPOVODNAYA,dWITH DOUBLE ZAPYATAYA,cGROMOKRYZHEVAYA,dPOVODNAYA,bMECHIK,cPOVODNY",
    "cKLYUCHEVOY,cKLYUCHEPOVODNY,cKLYUCHENEPOSTOYANNY,bSTRELA TRYASOGLASNAYA,cTRYASOPOVODNAYA",
    "cTRYASOSTRELNAYA,bOSOKA,cSVETLAYA,cTRESVETLAYA,cKRYUKOVAYA SVETLAYA,cKLYUCHEVAYAa",
    "dNEPOSTOYANNAYA,bSTRELA KRYUKOVAYA,dPOVODNAYA,dGROMNAYA WITH SINGLE ZAPYATAYA",
    "dGROMOPOVODNAYAc,dGROMNAYA,dGROMOPOVODNAYA,eWITH DOUBLE ZAPYATAYA,dGROMOKRYZHEVAYA",
    "ePOVODNAYA,dTRYASKA,bKUFISMA,bOBLAKO,bDUDA,bNEMKA,bPAUK"]⟩,
  ⟨0x1D000, ["BYZANTINE MUSICAL SYMBOL PSILI,cDASEIA,cPERISPOMENI,cOXEIA EKFONITIKON,dDIPLI",
    "cVAREIA EKFONITIKON,dDIPLI,cKATHISTI,cSYRMATIKI,cPARAKLITIKI,cYPOKRISIS,dDIPLI,cKREMASTI",
    "cAPESO EKFONITIKON,cEXOa,cTELEIA,cKENTIMATA,cAPOSTROFOS,dDIPLI,cSYNEVMA,cTHITA",
    "cOLIGON ARCHAION,cGORGONa,cPSILON,cCHAMILON,cVATHY,cISON ARCHAION,cKENTIMAa,cKENTIMATAa",
    "cSAXIMATA,cPARICHON,cSTAVROS APODEXIA,cOXEIAI ARCHAION,cVAREIAIa,cAPODERMAa,cAPOTHEMA",
    "cKLASMA,cREVMA,cPIASMA ARCHAION,cTINAGMA,cANATRICHISMA,cSEISMA,cSYNAGMA ARCHAION",
    "dMETA STAVROU,cOYRANISMA ARCHAION,cTHEMA,cLEMOI,cDYO,cTRIA,cTESSERA,cKRATIMATA",
    "cAPESO EXO NEO,cFTHORA ARCHAION,cIMIFTHORA,cTROMIKON ARCHAION,cKATAVA TROMIKON,cPELASTON",
    "cPSIFISTON,cKONTEVMA,cCHOREVMA ARCHAION,cRAPISMA,cPARAKALESMA ARCHAION,cPARAKLITIKIa",
    "cICHADIN,cNANA,cPETASMA,cKONTEVMA ALLO,cTROMIKONa,cSTRAGGISMATA,cGRONTHISMATA,cISON NEO",
    "cOLIGONa,cOXEIAa,cPETASTI,cKOUFISMA,cPETASTOKOUFISMA,cKRATIMOKOUFISMA,cPELASTON NEO",
    "cKENTIMATA NEO ANO,cKENTIMAb,cYPSILI,cAPOSTROFOS NEO,cAPOSTROFOI SYNDESMOSa,cYPORROI",
    "cKRATIMOYPORROON,cELAFRON,cCHAMILI,cMIKRON ISON,cVAREIA NEO,cPIASMAa,cPSIFISTONa,cOMALON",
    "cANTIKENOMA,cLYGISMA,cPARAKLITIKI NEO,cPARAKALESMAa,cETERON PARAKALESMA,cKYLISMA",
    "cANTIKENOKYLISMA,cTROMIKON NEO,cEKSTREPTON,cSYNAGMA NEO,cSYRMA,cCHOREVMA NEO,cEPEGERMA",
    "cSEISMA NEO,cXIRON KLASMA,cTROMIKOPSIFISTON,cPSIFISTOLYGISMA,cTROMIKOLYGISMA",
    "cTROMIKOPARAKALESMA,cPSIFISTOPARAKALESMA,cTROMIKOSYNAGMA,cPSIFISTOSYNAGMA,cGORGOSYNTHETON",
    "cARGOSYNTHETON,cETERONa,cOYRANISMA NEO,cTHEMATISMOS ESO,dEXO,cTHEMA APLOUN",
    "cTHES KAI APOTHES,cKATAVASMA,cENDOFONON,cYFEN KATO,dANO,cSTAVROS,cKLASMA ANO",
    "cDIPLI ARCHAION,cKRATIMAa,dALLO,dNEO,cAPODERMAa,cAPLI,cDIPLI,cTRIPLI,cTETRAPLI,cKORONIS",
    "cLEIMMA ENOS CHRONOU,dDYO CHRONON,dTRIONa,dTESSARONa,dIMISEOS CHRONOU,cGORGON NEO ANO",
    "dPARESTIGMENON ARISTERA,eDEXIA,cDIGORGON,dPARESTIGMENON ARISTERA KATO,fANO,eDEXIA",
    "cTRIGORGON,cARGON,cIMIDIARGON,cDIARGON,cAGOGI POLI ARGI,dARGOTERI,dARGI,dMETRIA,dMESI",
    "dGORGI,dGORGOTERI,dPOLI GORGI,cMARTYRIA PROTOS ICHOS,dALLIb,dDEYTEROSa,dALLIb,dTRITOSa",
    "dTRIFONIAS,dTETARTOS ICHOS,eLEGETOSa,dLEGETOS ICHOS,dPLAGIOSa,cISAKIA TELOUS ICHIMATOS",
    "cAPOSTROFOIb,cFANEROSIS TETRAFONIAS,dMONOFONIAS,dDIFONIAS,cMARTYRIA VARYS ICHOS",
    "dPROTOVARYSa,dPLAGIOS TETARTOSa,cGORTHMIKON N APLOUN,eDIPLOUN,cENARXIS KAI FTHORA VOU",
    "cIMIFONON,cIMIFTHORON,cFTHORA ARCHAION DEYTEROU ICHOU,dDIATONIKI PA,eNANA,dNAOS ICHOS",
    "dDIATONIKI DI,dSKLIRON DIATONONa,dDIATONIKI KE,eZO,eNI KATO,fANO,dMALAKON CHROMA DIFONIAS",
    "fMONOFONIAS,cFHTORA SKLIRON CHROMA VASIS,cFTHORA SKLIRON CHROMA SYNAFI,dNENANO,cCHROA ZYGOS",
    "dKLITON,dSPATHI,cFTHORA I YFESIS TETARTIMORION,dENARMONIOS ANTIFONIA,cYFESIS TRITIMORION",
    "cDIESISa,dTETARTIMORION,dAPLI DYO DODEKATA,dMONOGRAMMOS TESSERAa,dDIGRAMMOS EXa",
    "dTRIGRAMMOS OKTOa,cYFESIS APLI DYOa,dMONOGRAMMOS TESSERAa,dDIGRAMMOS EXa,dTRIGRAMMOS OKTOa",
    "cGENIKI DIESIS,dYFESIS,cDIASTOLI APLI MIKRI,eMEGALI,dDIPLI,dTHESEOS,cSIMANSISa,eDISIMOU",
    "eTRISIMOU,eTETRASIMOU,dARSEOS,eDISIMOU,eTRISIMOU,eTETRASIMOU,cDIGRAMMA GG,cDIFTOGGOS OU",
    "cSTIGMA,cARKTIKO PA,dVOU,dGA,dDI,dKE,dZO,dNI,cKENTIMATA NEO MESO,cKENTIMAb",
    "cKENTIMATA NEO KATO,cKENTIMAb,cKLASMAa,cGORGON NEOa,,,,,,,,,,,MUSICAL SYMBOL SINGLE BARLINE",
    "bDOUBLEa,bFINALa,bREVERSEb,bDASHEDa,bSHORTa,bLEFT REPEAT SIGN,bRIGHTb,bREPEAT DOTS",
    "bDAL SEGNO,bDA CAPO,bSEGNO,bCODA,bREPEATED FIGURE-1,cFIGURE-2,cFIGURE-3,bFERMATA,cBELOW",
    "bBREATH MARK,bCAESURA,bBRACE,bBRACKET,bONE-LINE STAFF,bTWO-LINEa,bTHREE-LINEa,bFOUR-LINEa",
    "bFIVE-LINEa,bSIX-LINEa,bSIX-STRING FRETBOARD,bFOUR-STRINGa,bG CLEF,dOTTAVA ALTA,eBASSA",
    "bC CLEF,bFa,dOTTAVA ALTA,eBASSA,bDRUM CLEF-1,cCLEF-2,,,bMULTIPLE MEASURE REST,bDOUBLE SHARP",
    "cFLAT,bFLAT UP,cDOWN,bNATURAL UP,cDOWN,bSHARP UP,cDOWN,bQUARTER TONE SHARP,dFLAT",
    "bCOMMON TIME,bCUTa,bOTTAVA ALTA,cBASSA,bQUINDICESIMA ALTA,cBASSA,bMULTI REST,bWHOLEa,bHALFa",
    "bQUARTERa,bEIGHTHa,bSIXTEENTHa,bTHIRTY-SECONDa,bSIXTY-FOURTHa,bONE HUNDRED TWENTY-EIGHTHa",
    "bX NOTEHEAD,bPLUSa,bCIRCLE Xa,bSQUARE NOTEHEAD WHITE,dBLACK,bTRIANGLE NOTEHEAD UP WHITE",
    "eBLACK,dLEFT WHITE,eBLACK,dRIGHT WHITE,eBLACK,dDOWN WHITE,eBLACK,dUP RIGHT WHITE,fBLACK",
    "bMOON NOTEHEAD WHITE,dBLACK,bTRIANGLE-ROUND NOTEHEAD DOWN WHITE,eBLACK",
    "bPARENTHESIS NOTEHEAD,bVOIDa,bNOTEHEAD BLACK,bNULL NOTEHEAD,bCLUSTER NOTEHEAD WHITE,dBLACK",
    "bBREVE,bWHOLE NOTE,bHALFa,bQUARTERa,bEIGHTHa,bSIXTEENTHa,bTHIRTY-SECONDa,bSIXTY-FOURTHa",
    "bONE HUNDRED TWENTY-EIGHTHa,bCOMBINING STEM,cSPRECHGESANGa,cTREMOLO-1,cTREMOLO-2,cTREMOLO-3",
    "bFINGERED TREMOLO-1,cTREMOLO-2,cTREMOLO-3,bCOMBINING AUGMENTATION DOT,cFLAG-1,cFLAG-2",
    "cFLAG-3,cFLAG-4,cFLAG-5,bBEGIN BEAM,bENDa,bBEGIN TIE,bENDa,bBEGIN SLUR,bENDa,bBEGIN PHRASE",
    "bENDa,bCOMBINING ACCENT,cSTACCATO,cTENUTO,cSTACCATISSIMO,cMARCATO,cMARCATO-STACCATO",
    "cACCENT-STACCATO,cLOURE,bARPEGGIATO UP,cDOWN,bCOMBINING DOIT,cRIP,cFLIP,cSMEAR,cBEND",
    "cDOUBLE TONGUE,cTRIPLEa,bRINFORZANDO,bSUBITO,bZ,bPIANO,bMEZZO,bFORTE,bCRESCENDO",
    "bDECRESCENDO,bGRACE NOTE SLASH,dNOa,bTR,bTURN,bINVERTEDa,bTURN SLASH,cUP,bORNAMENT STROKE-1",
    "cSTROKE-2,cSTROKE-3,cSTROKE-4,cSTROKE-5,cSTROKE-6,cSTROKE-7,cSTROKE-8,cSTROKE-9,cSTROKE-10",
    "cSTROKE-11,bHAUPTSTIMME,bNEBENSTIMME,bEND OF STIMME,bDEGREE SLASH,bCOMBINING DOWN BOW,cUPa",
    "cHARMONIC,cSNAP PIZZICATO,bPEDAL MARK,cUPa,bHALF PEDALa,bGLISSANDO UP,cDOWN",
    "bWITH FINGERNAILS,bDAMP,cALL,bMAXIMA,bLONGA,bBREVIS,bSEMIBREVIS WHITE,cBLACK,bMINIMA,cBLACK",
    "bSEMIMINIMA WHITE,cBLACK,bFUSA WHITE,cBLACK,bLONGA PERFECTA REST,cIMPERFECTAa,bBREVISa",
    "bSEMIBREVISa,bMINIMAa,bSEMIMINIMAa,bTEMPUS PERFECTUM CUM PROLATIONE PERFECTA,fIMPERFECTA",
    "fPERFECTA DIMINUTION-1,cIMPERFECTUM CUM PROLATIONE PERFECTA,fIMPERFECTA,gDIMINUTION-1",
    "gDIMINUTION-2,gDIMINUTION-3,bCROIX,bGREGORIAN C CLEF,cFa,bSQUARE B,bVIRGA,bPODATUS,bCLIVIS",
    "bSCANDICUS,bCLIMACUS,bTORCULUS,bPORRECTUS,cFLEXUS,bSCANDICUSa,bTORCULUS RESUPINUS",
    "bPES SUBPUNCTIS,bKIEVAN C CLEF,cEND OF PIECE,cFINAL NOTE,cRECITATIVE MARK,cWHOLE NOTE",
    "cHALFa,cQUARTER NOTE STEM DOWN,fUP,cEIGHTH NOTE STEM DOWN,fUP,cFLAT SIGN,bSORI,bKORON"]⟩,
  ⟨0x1D200, ["GREEK VOCAL NOTATION SYMBOL-1,cSYMBOL-2,cSYMBOL-3,cSYMBOL-4,cSYMBOL-5,cSYMBOL-6",
    "cSYMBOL-7,cSYMBOL-8,cSYMBOL-9,cSYMBOL-10,cSYMBOL-11,cSYMBOL-12,cSYMBOL-13,cSYMBOL-14",
    "cSYMBOL-15,cSYMBOL-16,cSYMBOL-17,cSYMBOL-18,cSYMBOL-19,cSYMBOL-20,cSYMBOL-21,cSYMBOL-22",
    "cSYMBOL-23,cSYMBOL-24,cSYMBOL-50,cSYMBOL-51,cSYMBOL-52,cSYMBOL-53,cSYMBOL-54",
    "aINSTRUMENTAL NOTATION SYMBOL-1,cSYMBOL-2,cSYMBOL-4,cSYMBOL-5,cSYMBOL-7,cSYMBOL-8",
    "cSYMBOL-11,cSYMBOL-12,cSYMBOL-13,cSYMBOL-14,cSYMBOL-17,cSYMBOL-18,cSYMBOL-19,cSYMBOL-23",
    "cSYMBOL-24,cSYMBOL-25,cSYMBOL-26,cSYMBOL-27,cSYMBOL-29,cSYMBOL-30,cSYMBOL-32,cSYMBOL-36",
    "cSYMBOL-37,cSYMBOL-38,cSYMBOL-39,cSYMBOL-40,cSYMBOL-42,cSYMBOL-43,cSYMBOL-45,cSYMBOL-47",
    "cSYMBOL-48,cSYMBOL-49,cSYMBOL-50,cSYMBOL-51,cSYMBOL-52,cSYMBOL-53,cSYMBOL-54",
    "COMBINING GREEK MUSICAL TRISEME,cTETRASEME,cPENTASEME,GREEK MUSICAL LEIMMA"]⟩,
  ⟨0x1D2E0, ["MAYAN NUMERAL ZERO,bONE,bTWO,bTHREE,bFOUR,bFIVE,bSIX,bSEVEN,bEIGHT,bNINE,bTEN",
    "bELEVEN,bTWELVE,bTHIRTEEN,bFOURTEEN,bFIFTEEN,bSIXTEEN,bSEVENTEEN,bEIGHTEEN,bNINETEEN"]⟩,
  ⟨0x1D300, ["MONOGRAM FOR EARTH,DIGRAM FOR HEAVENLYa,bHUMANa,bEARTHLY HEAVEN,cHUMAN,bEARTH",
    "TETRAGRAM FOR CENTRE,bFULL CIRCLE,bMIRED,bBARRIER,bKEEPING SMALL,bCONTRARIETY,bASCENT",
    "bOPPOSITION,bBRANCHING OUT,bDEFECTIVENESS OR DISTORTION,bDIVERGENCE,bYOUTHFULNESS,bINCREASE",
    "bPENETRATION,bREACH,bCONTACT,bHOLDING BACK,bWAITING,bFOLLOWING,bADVANCE,bRELEASE",
    "bRESISTANCE,bEASE,bJOY,bCONTENTION,bENDEAVOUR,bDUTIES,bCHANGE,bDECISIVENESS",
    "bBOLD RESOLUTION,bPACKING,bLEGION,bCLOSENESS,bKINSHIP,bGATHERING,bSTRENGTH,bPURITY",
    "bFULLNESS,bRESIDENCE,bLAW OR MODEL,bRESPONSE,bGOING TO MEET,bENCOUNTERS,bSTOVE,bGREATNESS",
    "bENLARGEMENT,bPATTERN,bRITUAL,bFLIGHT,bVASTNESS OR WASTING,bCONSTANCY,bMEASURE,bETERNITY",
    "bUNITY,bDIMINISHMENT,bCLOSED MOUTH,bGUARDEDNESS,bGATHERING IN,bMASSING,bACCUMULATION",
    "bEMBELLISHMENT,bDOUBT,bWATCH,bSINKING,bINNER,bDEPARTURE,bDARKENING,bDIMMING,bEXHAUSTION",
    "bSEVERANCE,bSTOPPAGE,bHARDNESS,bCOMPLETION,bCLOSURE,bFAILURE,bAGGRAVATION,bCOMPLIANCE",
    "bON THE VERGE,bDIFFICULTIES,bLABOURING,bFOSTERING,,,,,,,,,,COUNTING ROD UNIT DIGIT ONE,dTWO",
    "dTHREE,dFOUR,dFIVE,dSIX,dSEVEN,dEIGHT,dNINE,bTENS DIGIT ONE,dTWO,dTHREE,dFOUR,dFIVE,dSIX",
    "dSEVEN,dEIGHT,dNINE,IDEOGRAPHIC TALLY MARK ONE,cTWO,cTHREE,cFOUR,cFIVE,TALLY MARK ONE,bFIVE"]⟩,
  ⟨0x1D400, ["MATHEMATICAL BOLD CAPITAL A,cB,cC,cD,cE,cF,cG,cH,cI,cJ,cK,cL,cM,cN,cO,cP,cQ,cR,cS",
    "cT,cU,cV,cW,cX,cY,cZ,bSMALL A,cB,cC,cD,cE,cF,cG,cH,cI,cJ,cK,cL,cM,cN,cO,cP,cQ,cR,cS,cT,cU",
    "cV,cW,cX,cY,cZ,aITALIC CAPITAL A,cB,cC,cD,cE,cF,cG,cH,cI,cJ,cK,cL,cM,cN,cO,cP,cQ,cR,cS,cT",
    "cU,cV,cW,cX,cY,cZ,bSMALL A,cB,cC,cD,cE,cF,cG,,cI,cJ,cK,cL,cM,cN,cO,cP,cQ,cR,cS,cT,cU,cV,cW",
    "cX,cY,cZ,aBOLD ITALIC CAPITAL A,dB,dC,dD,dE,dF,dG,dH,dI,dJ,dK,dL,dM,dN,dO,dP,dQ,dR,dS,dT,dU",
    "dV,dW,dX,dY,dZ,cSMALL A,dB,dC,dD,dE,dF,dG,dH,dI,dJ,dK,dL,dM,dN,dO,dP,dQ,dR,dS,dT,dU,dV,dW",
    "dX,dY,dZ,aSCRIPT CAPITAL A,,cC,cD,,,cG,,,cJ,cK,,,cN,cO,cP,cQ,,cS,cT,cU,cV,cW,cX,cY,cZ",
    "bSMALL A,cB,cC,cD,,cF,,cH,cI,cJ,cK,cL,cM,cN,,cP,cQ,cR,cS,cT,cU,cV,cW,cX,cY,cZ",
    "aBOLD SCRIPT CAPITAL A,dB,dC,dD,dE,dF,dG,dH,dI,dJ,dK,dL,dM,dN,dO,dP,dQ,dR,dS,dT,dU,dV,dW,dX",
    "dY,dZ,cSMALL A,dB,dC,dD,dE,dF,dG,dH,dI,dJ,dK,dL,dM,dN,dO,dP,dQ,dR,dS,dT,dU,dV,dW,dX,dY,dZ",
    "aFRAKTUR CAPITAL A,cB,,cD,cE,cF,cG,,,cJ,cK,cL,cM,cN,cO,cP,cQ,,cS,cT,cU,cV,cW,cX,cY,",
    "bSMALL A,cB,cC,cD,cE,cF,cG,cH,cI,cJ,cK,cL,cM,cN,cO,cP,cQ,cR,cS,cT,cU,cV,cW,cX,cY,cZ",
    "aDOUBLE-STRUCK CAPITAL A,cB,,cD,cE,cF,cG,,cI,cJ,cK,cL,cM,,cO,,,,cS,cT,cU,cV,cW,cX,cY,",
    "bSMALL A,cB,cC,cD,cE,cF,cG,cH,cI,cJ,cK,cL,cM,cN,cO,cP,cQ,cR,cS,cT,cU,cV,cW,cX,cY,cZ",
    "aBOLD FRAKTUR CAPITAL A,dB,dC,dD,dE,dF,dG,dH,dI,dJ,dK,dL,dM,dN,dO,dP,dQ,dR,dS,dT,dU,dV,dW",
    "dX,dY,dZ,cSMALL A,dB,dC,dD,dE,dF,dG,dH,dI,dJ,dK,dL,dM,dN,dO,dP,dQ,dR,dS,dT,dU,dV,dW,dX,dY",
    "dZ,aSANS-SERIF CAPITAL A,cB,cC,cD,cE,cF,cG,cH,cI,cJ,cK,cL,cM,cN,cO,cP,cQ,cR,cS,cT,cU,cV,cW",
    "cX,cY,cZ,bSMALL A,cB,cC,cD,cE,cF,cG,cH,cI,cJ,cK,cL,cM,cN,cO,cP,cQ,cR,cS,cT,cU,cV,cW,cX,cY",
    "cZ,bBOLD CAPITAL A,dB,dC,dD,dE,dF,dG,dH,dI,dJ,dK,dL,dM,dN,dO,dP,dQ,dR,dS,dT,dU,dV,dW,dX,dY",
    "dZ,cSMALL A,dB,dC,dD,dE,dF,dG,dH,dI,dJ,dK,dL,dM,dN,dO,dP,dQ,dR,dS,dT,dU,dV,dW,dX,dY,dZ",
    "bITALIC CAPITAL A,dB,dC,dD,dE,dF,dG,dH,dI,dJ,dK,dL,dM,dN,dO,dP,dQ,dR,dS,dT,dU,dV,dW,dX,dY",
    "dZ,cSMALL A,dB,dC,dD,dE,dF,dG,dH,dI,dJ,dK,dL,dM,dN,dO,dP,dQ,dR,dS,dT,dU,dV,dW,dX,dY,dZ",
    "bBOLD ITALIC CAPITAL A,eB,eC,eD,eE,eF,eG,eH,eI,eJ,eK,eL,eM,eN,eO,eP,eQ,eR,eS,eT,eU,eV,eW,eX",
    "eY,eZ,dSMALL A,eB,eC,eD,eE,eF,eG,eH,eI,eJ,eK,eL,eM,eN,eO,eP,eQ,eR,eS,eT,eU,eV,eW,eX,eY,eZ",
    "aMONOSPACE CAPITAL A,cB,cC,cD,cE,cF,cG,cH,cI,cJ,cK,cL,cM,cN,cO,cP,cQ,cR,cS,cT,cU,cV,cW,cX",
    "cY,cZ,bSMALL A,cB,cC,cD,cE,cF,cG,cH,cI,cJ,cK,cL,cM,cN,cO,cP,cQ,cR,cS,cT,cU,cV,cW,cX,cY,cZ",
    "aITALIC SMALL DOTLESS I,dJ,,,aBOLD CAPITAL ALPHA,cBETA,cGAMMA,cDELTA,cEPSILON,cZETA,cETA",
    "cTHETA,cIOTA,cKAPPA,cLAMDA,cMU,cNU,cXI,cOMICRON,cPI,cRHO,cTHETA SYMBOL,cSIGMA,cTAU,cUPSILON",
    "cPHI,cCHI,cPSI,cOMEGA,bNABLA,bSMALL ALPHA,cBETA,cGAMMA,cDELTA,cEPSILON,cZETA,cETA,cTHETA",
    "cIOTA,cKAPPA,cLAMDA,cMU,cNU,cXI,cOMICRON,cPI,cRHO,cFINAL SIGMA,cSIGMA,cTAU,cUPSILON,cPHI",
    "cCHI,cPSI,cOMEGA,bPARTIAL DIFFERENTIAL,bEPSILON SYMBOL,bTHETAa,bKAPPAa,bPHIa,bRHOa,bPIa",
    "aITALIC CAPITAL ALPHA,cBETA,cGAMMA,cDELTA,cEPSILON,cZETA,cETA,cTHETA,cIOTA,cKAPPA,cLAMDA",
    "cMU,cNU,cXI,cOMICRON,cPI,cRHO,cTHETA SYMBOL,cSIGMA,cTAU,cUPSILON,cPHI,cCHI,cPSI,cOMEGA",
    "bNABLA,bSMALL ALPHA,cBETA,cGAMMA,cDELTA,cEPSILON,cZETA,cETA,cTHETA,cIOTA,cKAPPA,cLAMDA,cMU",
    "cNU,cXI,cOMICRON,cPI,cRHO,cFINAL SIGMA,cSIGMA,cTAU,cUPSILON,cPHI,cCHI,cPSI,cOMEGA",
    "bPARTIAL DIFFERENTIAL,bEPSILON SYMBOL,bTHETAa,bKAPPAa,bPHIa,bRHOa,bPIa",
    "aBOLD ITALIC CAPITAL ALPHA,dBETA,dGAMMA,dDELTA,dEPSILON,dZETA,dETA,dTHETA,dIOTA,dKAPPA",
    "dLAMDA,dMU,dNU,dXI,dOMICRON,dPI,dRHO,dTHETA SYMBOL,dSIGMA,dTAU,dUPSILON,dPHI,dCHI,dPSI",
    "dOMEGA,cNABLA,cSMALL ALPHA,dBETA,dGAMMA,dDELTA,dEPSILON,dZETA,dETA,dTHETA,dIOTA,dKAPPA",
    "dLAMDA,dMU,dNU,dXI,dOMICRON,dPI,dRHO,dFINAL SIGMA,dSIGMA,dTAU,dUPSILON,dPHI,dCHI,dPSI",
    "dOMEGA,cPARTIAL DIFFERENTIAL,cEPSILON SYMBOL,cTHETAa,cKAPPAa,cPHIa,cRHOa,cPIa",
    "aSANS-SERIF BOLD CAPITAL ALPHA,dBETA,dGAMMA,dDELTA,dEPSILON,dZETA,dETA,dTHETA,dIOTA,dKAPPA",
    "dLAMDA,dMU,dNU,dXI,dOMICRON,dPI,dRHO,dTHETA SYMBOL,dSIGMA,dTAU,dUPSILON,dPHI,dCHI,dPSI",
    "dOMEGA,cNABLA,cSMALL ALPHA,dBETA,dGAMMA,dDELTA,dEPSILON,dZETA,dETA,dTHETA,dIOTA,dKAPPA",
    "dLAMDA,dMU,dNU,dXI,dOMICRON,dPI,dRHO,dFINAL SIGMA,dSIGMA,dTAU,dUPSILON,dPHI,dCHI,dPSI",
    "dOMEGA,cPARTIAL DIFFERENTIAL,cEPSILON SYMBOL,cTHETAa,cKAPPAa,cPHIa,cRHOa,cPIa",
    "cITALIC CAPITAL ALPHA,eBETA,eGAMMA,eDELTA,eEPSILON,eZETA,eETA,eTHETA,eIOTA,eKAPPA,eLAMDA",
    "eMU,eNU,eXI,eOMICRON,ePI,eRHO,eTHETA SYMBOL,eSIGMA,eTAU,eUPSILON,ePHI,eCHI,ePSI,eOMEGA",
    "dNABLA,dSMALL ALPHA,eBETA,eGAMMA,eDELTA,eEPSILON,eZETA,eETA,eTHETA,eIOTA,eKAPPA,eLAMDA,eMU",
    "eNU,eXI,eOMICRON,ePI,eRHO,eFINAL SIGMA,eSIGMA,eTAU,eUPSILON,ePHI,eCHI,ePSI,eOMEGA",
    "dPARTIAL DIFFERENTIAL,dEPSILON SYMBOL,dTHETAa,dKAPPAa,dPHIa,dRHOa,dPIa",
    "aBOLD CAPITAL DIGAMMA,bSMALLa,,,bDIGIT ZERO,cONE,cTWO,cTHREE,cFOUR,cFIVE,cSIX,cSEVEN,cEIGHT",
    "cNINE,aDOUBLE-STRUCK DIGIT ZERO,cONE,cTWO,cTHREE,cFOUR,cFIVE,cSIX,cSEVEN,cEIGHT,cNINE",
    "aSANS-SERIF DIGIT ZERO,cONE,cTWO,cTHREE,cFOUR,cFIVE,cSIX,cSEVEN,cEIGHT,cNINE",
    "bBOLD DIGIT ZERO,dONE,dTWO,dTHREE,dFOUR,dFIVE,dSIX,dSEVEN,dEIGHT,dNINE",
    "aMONOSPACE DIGIT ZERO,cONE,cTWO,cTHREE,cFOUR,cFIVE,cSIX,cSEVEN,cEIGHT,cNINE",
    "SIGNWRITING HAND-FIST INDEX,aHAND-CIRCLEa,aHAND-CUPa,aHAND-OVALa,aHAND-HINGEa,aHAND-ANGLEa",
    "aHAND-FIST INDEX BENT,aHAND-CIRCLEb,aHAND-FIST THUMB UNDERb,bINDEX RAISED KNUCKLE,cCUPPED",
    "cHINGED,dLOW,aHAND-CIRCLE INDEX HINGE,aHAND-FIST INDEX MIDDLE,aHAND-CIRCLEb",
    "aHAND-FIST INDEX MIDDLE BENT,dRAISED KNUCKLES,dHINGED,cUPb,cHINGED MIDDLE UP",
    "cMIDDLE CONJOINED,eINDEX BENT,eMIDDLEa,eCUPPED,eHINGED,dCROSSED,aHAND-CIRCLEc",
    "aHAND-FIST MIDDLE BENT OVER INDEX,bINDEX BENT OVER MIDDLE,cMIDDLE THUMB,aHAND-CIRCLEc",
    "aHAND-FIST INDEX MIDDLE STRAIGHT THUMB BENT,dBENT THUMB STRAIGHT,dTHUMB BENT",
    "dHINGED SPREAD THUMB SIDE,cUP MIDDLE HINGEDb,gCONJOINED,cHINGED MIDDLE UP THUMB SIDE",
    "cMIDDLE UP SPREAD THUMB FORWARD,dTHUMB CUPPED,eCIRCLED,eHOOKED,eHINGED",
    "bTHUMB BETWEEN INDEX MIDDLE STRAIGHT,bINDEX MIDDLE CONJOINED THUMB SIDE,gCONJOINED,gBENT",
    "bMIDDLE THUMB HOOKED INDEX UP,bINDEX THUMB HOOKED MIDDLEa",
    "cMIDDLE CONJOINED HINGED THUMB SIDE,dCROSSEDb,dCONJOINED THUMB FORWARD,eCUPPEDb",
    "bMIDDLE THUMB CUPPED INDEX UP,bINDEX THUMB CUPPED MIDDLEa,bMIDDLE THUMB CIRCLED INDEXa",
    "fHINGED,bINDEX THUMB ANGLED OUT MIDDLE UP,eINb,dCIRCLEDb,cMIDDLE THUMB CONJOINED HINGED",
    "eANGLED OUT,f,bMIDDLE THUMB ANGLED OUT INDEX UP,gCROSSED,eINDEX UP",
    "bINDEX THUMB HOOKED MIDDLE HINGED,aHAND-FLAT FOUR FINGERS,dBENT,dHINGED,dCONJOINED,eSPLIT",
    "aHAND-CLAW FOUR FINGERS CONJOINED,aHAND-FIST FOUR FINGERS CONJOINED BENT",
    "aHAND-HINGE FOUR FINGERS CONJOINED,aHAND-FLAT FIVE FINGERS SPREAD,bHEELc",
    "bFIVE FINGERS SPREAD FOUR BENT,bHEELe,bFIVE FINGERS SPREADa,bHEELd",
    "bFIVE FINGERS SPREAD THUMB FORWARD,aHAND-CUP FIVE FINGERS SPREAD,eOPEN,aHAND-HINGEd",
    "aHAND-OVAL FIVE FINGERS SPREAD,aHAND-FLAT FIVE FINGERS SPREAD HINGED,fTHUMB SIDE,fNO THUMB",
    "b,bBETWEEN PALM FACINGS,bHEEL,bTHUMB SIDE,bHEELb,bTHUMB BENT,cFORWARD",
    "bSPLIT INDEX THUMB SIDE,cCENTRE,dTHUMB SIDE,fBENT,cLITTLE,aHAND-CLAW,bTHUMB SIDE,bNO THUMB",
    "bTHUMB FORWARD,aHAND-HOOK CURLICUE,b,aHAND-CUP OPEN,b,bOPEN THUMB SIDE,bTHUMB SIDE",
    "bOPEN NO THUMB,bNO THUMB,bOPEN THUMB FORWARD,bTHUMB FORWARD,aHAND-CURLICUE OPEN,b",
    "aHAND-CIRCLE,aHAND-OVAL,bTHUMB SIDE,bNO THUMB,bTHUMB FORWARD,aHAND-HINGE OPEN",
    "cTHUMB FORWARD,b,bSMALL,bOPEN THUMB SIDE,bTHUMB SIDE,bOPEN NO THUMB,bNO THUMB",
    "bTHUMB SIDE TOUCHING INDEX,cBETWEEN MIDDLE RING,aHAND-ANGLE,aHAND-FIST INDEX MIDDLE RING",
    "aHAND-CIRCLEc,aHAND-HINGEc,aHAND-ANGLEc,aHAND-HINGE LITTLE",
    "aHAND-FIST INDEX MIDDLE RING BENT,eCONJOINED,aHAND-HINGEd,aHAND-FIST LITTLE DOWN",
    "dRIPPLE STRAIGHT,eCURVED,dOTHERS CIRCLED,cUP,bTHUMB UNDERb,aHAND-CIRCLEb,aHAND-OVALb",
    "aHAND-ANGLEb,aHAND-FIST LITTLE RAISED KNUCKLE,cBENT,cTOUCHES THUMB,cTHUMB,aHAND-HINGEb",
    "aHAND-FIST LITTLE INDEXa,aHAND-HINGEc,aHAND-ANGLE LITTLE INDEX THUMB INDEX THUMB OUT,g",
    "aHAND-FIST LITTLE INDEX,aHAND-CIRCLEb,aHAND-HINGEb,aHAND-ANGLEb",
    "aHAND-FIST INDEX MIDDLE LITTLE,aHAND-CIRCLEc,aHAND-HINGEc,bRING",
    "aHAND-ANGLE INDEX MIDDLE LITTLE,aHAND-FIST INDEX MIDDLE CROSSa,aHAND-CIRCLEd",
    "aHAND-FIST RING DOWN,aHAND-HINGE RING DOWN INDEX THUMB HOOK MIDDLE",
    "aHAND-ANGLE RING DOWN MIDDLE THUMB INDEX CROSS,aHAND-FIST RING UP,cRAISED KNUCKLE,cLITTLE",
    "aHAND-CIRCLEb,aHAND-OVALb,aHAND-ANGLEb,aHAND-FIST RING MIDDLE,dCONJOINED,dRAISED KNUCKLES",
    "cINDEX,cTHUMB,aHAND-HOOKb,aHAND-FIST INDEX RING LITTLE,aHAND-CIRCLEc",
    "aHAND-CURLICUE INDEX RING LITTLE ON,aHAND-HOOK INDEX RING LITTLE OUT,eIN,eUNDER",
    "aHAND-CUP INDEX RING LITTLE,aHAND-HINGEc,aHAND-ANGLE INDEX RING LITTLE OUT,e",
    "aHAND-FIST MIDDLE DOWN,aHAND-HINGE MIDDLE,aHAND-FIST MIDDLE UP,aHAND-CIRCLEb",
    "aHAND-FIST MIDDLE RAISED KNUCKLE,cUP THUMB SIDE,aHAND-HOOK MIDDLE THUMB",
    "aHAND-FIST MIDDLE THUMB LITTLE,cLITTLE,cRINGa,aHAND-CIRCLEc",
    "aHAND-CURLICUE MIDDLE RING LITTLE ON,aHAND-CUP MIDDLE RING LITTLE,aHAND-HINGEc",
    "aHAND-ANGLE MIDDLE RING LITTLE OUT,eIN,e,aHAND-CIRCLE MIDDLE RING LITTLE BENT",
    "aHAND-CLAW MIDDLE RING LITTLE CONJOINED,fSIDE,aHAND-HOOK MIDDLE RING LITTLE CONJOINED OUT",
    "fIN,f,aHAND-HINGE INDEX HINGED,aHAND-FIST INDEX THUMB SIDE,aHAND-HINGEc",
    "aHAND-FIST INDEX THUMB SIDE THUMB DIAGONAL,fCONJOINED,fBENT,eINDEXa,eBOTHa,eINDEX HINGE",
    "dFORWARD INDEX STRAIGHT,fBENT,dHOOK,dCURLICUE,dCURVE THUMB INSIDE,aHAND-CLAWe",
    "aHAND-FIST INDEX THUMB CURVE THUMB UNDER,dCIRCLE,aHAND-CUP INDEX THUMB,dOPEN,aHAND-HINGEc",
    "dLARGE,d,dSMALL,aHAND-ANGLE INDEX THUMB OUT,dIN,d,aHAND-FISTa,cHEEL,cSIDE DIAGONAL",
    "dCONJOINED,dBENT,cFORWARD,cBETWEEN INDEX MIDDLE,dMIDDLE RING,dRING LITTLE",
    "cUNDER TWO FINGERS,cOVERb,cUNDER THREEa,dFOURa,cOVER FOUR RAISED KNUCKLES,b,bHEEL",
    "aTOUCH SINGLE,bMULTIPLE,bBETWEEN,aGRASP SINGLE,bMULTIPLE,bBETWEEN,aSTRIKE SINGLE,bMULTIPLE",
    "bBETWEEN,aBRUSH SINGLE,bMULTIPLE,bBETWEEN,aRUB SINGLE,bMULTIPLE,bBETWEEN,aSURFACE SYMBOLS",
    "bBETWEEN,aSQUEEZE LARGE SINGLE,bSMALLa,bLARGE MULTIPLE,bSMALLa,bSEQUENTIAL",
    "aFLICK LARGE SINGLE,bSMALLa,bLARGE MULTIPLE,bSMALLa,bSEQUENTIAL,aSQUEEZE FLICK ALTERNATING",
    "aMOVEMENT-HINGE UP DOWN LARGE,dSMALL,cSEQUENTIAL,bDOWNa,bUP DOWN ALTERNATING LARGE,eSMALL",
    "bSIDE TO SIDE SCISSORS,aMOVEMENT-WALLPLANE FINGER CONTACT,aMOVEMENT-FLOORPLANEb",
    "aMOVEMENT-WALLPLANE SINGLE STRAIGHT SMALL,dMEDIUM,dLARGE,dLARGEST,cWRIST FLEX",
    "bDOUBLE STRAIGHT,cWRIST FLEX,cALTERNATING,dWRIST FLEX,bCROSS,bTRIPLE STRAIGHT MOVEMENT",
    "cWRIST FLEX,cALTERNATING,dWRIST FLEX,bBEND SMALL,cMEDIUM,cLARGE,bCORNER SMALL,cMEDIUM",
    "cLARGE,cROTATION,bCHECK SMALL,cMEDIUM,cLARGE,bBOX SMALL,cMEDIUM,cLARGE,bZIGZAG SMALL",
    "cMEDIUM,cLARGE,bPEAKS SMALL,cMEDIUM,cLARGE,aTRAVEL-WALLPLANE ROTATION-WALLPLANE SINGLE",
    "cDOUBLE,cALTERNATING,bROTATION-FLOORPLANE SINGLE,cDOUBLE,cALTERNATING,bSHAKING",
    "bARM SPIRAL SINGLE,dDOUBLE,dTRIPLE,aMOVEMENT-DIAGONAL AWAY SMALL,cMEDIUM,cLARGE,cLARGEST",
    "bTOWARDS SMALL,cMEDIUM,cLARGE,cLARGEST,bBETWEEN AWAY SMALL,dMEDIUM,dLARGE,dLARGEST",
    "cTOWARDS SMALL,dMEDIUM,dLARGE,dLARGEST,aMOVEMENT-FLOORPLANE SINGLE STRAIGHT SMALL,dMEDIUM",
    "dLARGE,dLARGEST,cWRIST FLEX,bDOUBLE STRAIGHT,cWRIST FLEX,cALTERNATING,dWRIST FLEX,bCROSS",
    "bTRIPLE STRAIGHT MOVEMENT,cWRIST FLEX,cALTERNATING MOVEMENT,dWRIST FLEX,bBEND,bCORNER SMALL",
    "cMEDIUM,cLARGE,bCHECK,bBOX SMALL,cMEDIUM,cLARGE,bZIGZAG SMALL,cMEDIUM,cLARGE,bPEAKS SMALL",
    "cMEDIUM,cLARGE,aTRAVEL-FLOORPLANE ROTATION-FLOORPLANE SINGLE,cDOUBLE,cALTERNATING",
    "bROTATION-WALLPLANE SINGLE,cDOUBLE,cALTERNATING,bSHAKING",
    "aMOVEMENT-WALLPLANE CURVE QUARTER SMALL,dMEDIUM,dLARGE,dLARGEST,cHALF-CIRCLE SMALL,dMEDIUM",
    "dLARGE,dLARGEST,cTHREE-QUARTER CIRCLE SMALL,eMEDIUM,bHUMP SMALL,cMEDIUM,cLARGE,bLOOP SMALL",
    "cMEDIUM,cLARGE,cSMALL DOUBLE,bWAVE CURVE DOUBLE SMALL,eMEDIUM,eLARGE,dTRIPLE SMALL,eMEDIUM",
    "eLARGE,bCURVE THEN STRAIGHT,bCURVED CROSS SMALL,dMEDIUM,aROTATION-WALLPLANE SINGLE,bDOUBLE",
    "bALTERNATE,aMOVEMENT-WALLPLANE SHAKING,bCURVE HITTING FRONT WALL,bHUMPc,bLOOPc,bWAVEc",
    "aROTATION-WALLPLANE SINGLEc,bDOUBLEc,bALTERNATINGc,aMOVEMENT-WALLPLANE CURVE HITTING CHEST",
    "bHUMPb,bLOOPb,bWAVEb,aROTATION-WALLPLANE SINGLEb,bDOUBLEb,bALTERNATINGb",
    "aMOVEMENT-WALLPLANE WAVE DIAGONAL PATH SMALL,eMEDIUM,eLARGE",
    "aMOVEMENT-FLOORPLANE CURVE HITTING CEILING SMALL,eLARGE,bHUMP HITTING CEILING SMALL DOUBLE",
    "eLARGEa,eSMALL TRIPLE,eLARGEa,bLOOP HITTING CEILING SMALL SINGLE,eLARGEa,eSMALL DOUBLE",
    "eLARGEa,bWAVE HITTING CEILING SMALL,eLARGE,aROTATION-FLOORPLANE SINGLE HITTING CEILING",
    "bDOUBLEb,bALTERNATINGb,aMOVEMENT-FLOORPLANE CURVE HITTING FLOOR SMALL,eLARGE",
    "bHUMP HITTING FLOOR SMALL DOUBLE,eLARGEa,eTRIPLE SMALL TRIPLE,fLARGEa",
    "bLOOP HITTING FLOOR SMALL SINGLE,eLARGEa,eSMALL DOUBLE,eLARGEa,bWAVE HITTING FLOOR SMALL",
    "eLARGE,aROTATION-FLOORPLANE SINGLE HITTING FLOOR,bDOUBLEb,bALTERNATINGb",
    "aMOVEMENT-FLOORPLANE CURVE SMALL,cMEDIUM,cLARGE,cLARGEST,cCOMBINED,bHUMP SMALL,bLOOPa",
    "bWAVE SNAKE,cSMALL,cLARGE,aROTATION-FLOORPLANE SINGLE,bDOUBLE,bALTERNATING",
    "aMOVEMENT-FLOORPLANE SHAKING PARALLEL,aMOVEMENT-WALLPLANE ARM CIRCLE SMALL SINGLE,dMEDIUMa",
    "dSMALL DOUBLE,dMEDIUMa,aMOVEMENT-FLOORPLANE ARM CIRCLE HITTING WALL SMALL SINGLE,fMEDIUMa",
    "fLARGEa,fSMALL DOUBLE,fMEDIUMa,fLARGEa,aMOVEMENT-WALLPLANE WRIST CIRCLE FRONT SINGLE",
    "eDOUBLE,aMOVEMENT-FLOORPLANE WRIST CIRCLE HITTING WALL SINGLE,fDOUBLE",
    "aMOVEMENT-WALLPLANE FINGER CIRCLES SINGLE,dDOUBLE",
    "aMOVEMENT-FLOORPLANE FINGER CIRCLES HITTING WALL SINGLE,fDOUBLE,aDYNAMIC ARROWHEAD SMALL",
    "cLARGE,bFAST,bSLOW,bTENSE,bRELAXED,bSIMULTANEOUS,cALTERNATING,bEVERY OTHER TIME,bGRADUAL",
    "aHEAD,bRIM,bMOVEMENT-WALLPLANE STRAIGHT,cTILT,bMOVEMENT-FLOORPLANE STRAIGHT",
    "bMOVEMENT-WALLPLANE CURVE,bMOVEMENT-FLOORPLANEa,bMOVEMENT CIRCLE",
    "aFACE DIRECTION POSITION NOSE FORWARD TILTING,eUP OR DOWN,hTILTING,aEYEBROWS STRAIGHT UP",
    "cNEUTRAL,cDOWN,aDREAMY EYEBROWS NEUTRALa,cDOWN NEUTRAL,cUPa,cNEUTRAL UP,aFOREHEAD NEUTRAL",
    "bCONTACT,bWRINKLED,aEYES OPEN,bSQUEEZED,bCLOSED,aEYE BLINK SINGLE,cMULTIPLE,aEYES HALF OPEN",
    "bWIDEa,bHALF CLOSED,bWIDENING MOVEMENT,aEYE WINK,aEYELASHES UP,bDOWN,bFLUTTERING",
    "aEYEGAZE-WALLPLANE STRAIGHT,cDOUBLE,cALTERNATING,aEYEGAZE-FLOORPLANE STRAIGHT,cDOUBLE",
    "cALTERNATING,aEYEGAZE-WALLPLANE CURVED,aEYEGAZE-FLOORPLANEa,aEYEGAZE-WALLPLANE CIRCLING",
    "aCHEEKS PUFFED,bNEUTRAL,bSUCKED,aTENSE CHEEKS HIGH,cMIDDLE,cLOW,aEARS,aNOSE NEUTRAL",
    "bCONTACT,bWRINKLES,bWIGGLES,aAIR BLOWING OUT,bSUCKING IN,bBLOW SMALL ROTATIONS,bSUCKb",
    "aBREATH INHALE,bEXHALE,aMOUTH CLOSED NEUTRAL,cFORWARD,cCONTACT,bSMILE,cWRINKLED,cOPEN",
    "bFROWN,cWRINKLED,cOPEN,bOPEN CIRCLE,cFORWARD,cWRINKLED,cOVAL,dWRINKLED,dYAWN,cRECTANGLE",
    "dWRINKLED,dYAWN,bKISS,cFORWARD,cWRINKLED,bTENSE,cFORWARD,cSUCKED,aLIPS PRESSED TOGETHER",
    "aLIP LOWER OVER UPPER,bUPPER OVER LOWER,aMOUTH CORNERS,bWRINKLES SINGLE,cDOUBLE",
    "aTONGUE STICKING OUT FAR,bLICKING LIPS,bTIP BETWEENa,cTOUCHING INSIDE MOUTH",
    "bINSIDE MOUTH RELAXED,bMOVES AGAINST CHEEK,bCENTRE STICKING OUT,cINSIDE MOUTH,aTEETH",
    "bMOVEMENT,bON TONGUE,dMOVEMENT,cLIPS,dMOVEMENT,bBITE LIPS,aMOVEMENT-WALLPLANE JAW",
    "aMOVEMENT-FLOORPLANEa,aNECK,aHAIR,aEXCITEMENT,aSHOULDER HIP SPINE,cPOSITIONS",
    "aWALLPLANE SHOULDER HIP MOVE,aFLOORPLANEc,aSHOULDER TILTING FROM WAIST",
    "aTORSO-WALLPLANE STRAIGHT STRETCH,bCURVED BEND,aTORSO-FLOORPLANE TWISTING",
    "aUPPER BODY TILTING FROM HIP JOINTS,aLIMB COMBINATION,bLENGTH-1,bLENGTH-2,bLENGTH-3",
    "bLENGTH-4,bLENGTH-5,bLENGTH-6,bLENGTH-7,aFINGER,aLOCATION-WALLPLANE SPACE",
    "aLOCATION-FLOORPLANEa,aLOCATION HEIGHT,bWIDTH,bDEPTH,bHEAD NECK,bTORSO,bLIMBS DIGITS,aCOMMA",
    "aFULL STOP,aSEMICOLON,aCOLON,aPARENTHESIS"]⟩,
  ⟨0x1DA9B, ["SIGNWRITING FILL MODIFIER-2,bMODIFIER-3,bMODIFIER-4,bMODIFIER-5,bMODIFIER-6,",
    "aROTATION MODIFIER-2,bMODIFIER-3,bMODIFIER-4,bMODIFIER-5,bMODIFIER-6,bMODIFIER-7",
    "bMODIFIER-8,bMODIFIER-9,bMODIFIER-10,bMODIFIER-11,bMODIFIER-12,bMODIFIER-13,bMODIFIER-14",
    "bMODIFIER-15,bMODIFIER-16"]⟩,
  ⟨0x1DF00, ["LATIN SMALL LETTER FENG DIGRAPH WITH TRILL,cREVERSED SCRIPT G",
    "aLETTER SMALL CAPITAL TURNEDa,aSMALL LETTER REVERSED K,aLETTER SMALL CAPITAL L WITH BELT",
    "aSMALL LETTER LEZH WITH RETROFLEX HOOK,cTURNED Y WITH BELT,cREVERSED ENG",
    "cTURNED R WITH LONG LEG AND RETROFLEX HOOK,cT WITH HOOKc,aLETTER RETROFLEX CLICK WITHb",
    "aSMALL LETTER ESH WITH DOUBLE BAR,gAND CURL,cTURNED T WITHa,aLETTER INVERTED GLOTTAL STOPb",
    "bSTRETCHED Cb,bSMALL CAPITAL TURNED K,aSMALL LETTER L WITH FISHHOOK",
    "cDEZH DIGRAPH WITH PALATAL HOOK,cL WITH BELT ANDb,cENG WITHb,cTURNED Rc",
    "cR WITH FISHHOOK ANDb,cTESH DIGRAPH WITHb,cEZHc,cDEZH DIGRAPH WITH RETROFLEXa",
    "cI WITH STROKE ANDb,cO WITHb,cTESH DIGRAPHc,cCc,cS WITH CURL"]⟩,
  ⟨0x1E000, ["COMBINING GLAGOLITIC LETTER AZU,cBUKY,cVEDE,cGLAGOLI,cDOBRO,cYESTU,cZHIVETE,",
    "cZEMLJA,cIZHE,cINITIALa,cI,cDJERVI,cKAKO,cLJUDIJE,cMYSLITE,cNASHI,cONU,cPOKOJI,cRITSI",
    "cSLOVO,cTVRIDO,cUKU,cFRITU,cHERU,,,cSHTA,cTSI,cCHRIVI,cSHA,cYERU,cYERI,cYATI,,cYU",
    "cSMALL YUS,,cYO,cIOTATED SMALL YUS,cBIGa,cIOTATEDb,cFITA"]⟩,
  ⟨0x1E100, ["NYIAKENG PUACHUE HMONG LETTER MA,dTSA,dNTA,dTA,dHA,dNA,dXA,dNKA,dCA,dLA,dSA,dZA",
    "dNCA,dNTSA,dKA,dDA,dNYA,dNRA,dVA,dNTXA,dTXA,dFA,dRA,dQA,dYA,dNQA,dPA,dXYA,dNPA,dDLA,dNPLA",
    "dHAH,dMLA,dPLA,dGA,dRRA,dA,dAA,dI,dU,dO,dOO,dE,dEE,dW,,,,cTONE-B,cTONE-M,cTONE-J,cTONE-V",
    "cTONE-S,cTONE-G,cTONE-D,cSIGN FOR PERSON,eTHING,eLOCATION,eANIMAL,eINVERTEBRATE,dXW XW",
    "cSYLLABLE LENGTHENER,,,cDIGIT ZERO,dONE,dTWO,dTHREE,dFOUR,dFIVE,dSIX,dSEVEN,dEIGHT,dNINE,,,",
    ",cLOGOGRAM NYAJ,cCIRCLED CA"]⟩,
  ⟨0x1E290, ["TOTO LETTER PA,bBA,bTA,bDA,bKA,bGA,bMA,bNA,bNGA,bSA,bCHA,bYA,bWA,bJA,bHA,bRA,bLA",
    "bI,bBREATHYa,bIU,bBREATHYa,bU,bE,bBREATHYa,bEO,bBREATHYa,bO,bAE,bBREATHYa,bA",
    "aSIGN RISING TONE"]⟩,
  ⟨0x1E2C0, ["WANCHO LETTER AA,bA,bBA,bCA,bDA,bGA,bYA,bPHA,bLA,bNA,bPA,bTA,bTHA,bFA,bSA,bSHA,bJA",
    "bZA,bWA,bVA,bKA,bO,bAU,bRA,bMA,bKHA,bHA,bE,bI,bNGA,bU,bLLHA,bTSA,bTRA,bONG,bAANG,bANG,bING",
    "bON,bEN,bAAN,bNYA,bUEN,bYIH,aTONE TUP,bTUPNI,bKOI,bKOINI,aDIGIT ZERO,bONE,bTWO,bTHREE,bFOUR",
    "bFIVE,bSIX,bSEVEN,bEIGHT,bNINE,,,,,,aNGUN SIGN"]⟩,
  ⟨0x1E7E0, ["ETHIOPIC SYLLABLE HHYA,bHHYU,bHHYI,bHHYAA,bHHYEE,bHHYE,bHHYO,,bGURAGE HHWA,bHHWI",
    "bHHWEE,bHHWE,,bGURAGE MWI,cMWEE,,cQWI,cQWEE,cQWE,cBWI,cBWEE,cKWI,cKWEE,cKWE,cGWI,cGWEE,cGWE",
    "cFWI,cFWEE,cPWI,cPWEE,,MENDE KIKAKUI SYLLABLE M001 KI,cM002 KA,cM003 KU,cM065 KEE,cM095 KE",
    "cM076 KOO,cM048 KO,cM179 KUA,cM004 WI,cM005 WA,cM006 WU,cM126 WEE,cM118 WE,cM114 WOO",
    "cM045 WO,cM194 WUI,cM143 WEI,cM061 WVI,cM049 WVA,cM139 WVE,cM007 MIN,cM008 MAN,cM009 MUN",
    "cM059 MEN,cM094 MON,cM154 MUAN,cM189 MUEN,cM010 BI,cM011 BA,cM012 BU,cM150 BEE,cM097 BE",
    "cM103 BOO,cM138 BO,cM013 I,cM014 A,cM015 U,cM163 EE,cM100 E,cM165 OO,cM147 O,cM137 EI",
    "cM131 IN,cM135a,cM195 AN,cM178 EN,cM019 SI,cM020 SA,cM021 SU,cM162 SEE,cM116 SE,cM136 SOO",
    "cM079 SO,cM196 SIA,cM025 LI,cM026 LA,cM027 LU,cM084 LEE,cM073 LE,cM054 LOO,cM153 LO",
    "cM110 LONG LE,cM016 DI,cM017 DA,cM018 DU,cM089 DEE,cM180 DOO,cM181 DO,cM022 TI,cM023 TA",
    "cM024 TU,cM091 TEE,cM055 TE,cM104 TOO,cM069 TO,cM028 JI,cM029 JA,cM030 JU,cM157 JEE",
    "cM113 JE,cM160 JOO,cM063 JO,cM175 LONGa,cM031 YI,cM032 YA,cM033 YU,cM109 YEE,cM080 YE",
    "cM141 YOO,cM121 YO,cM034 FI,cM035 FA,cM036 FU,cM078 FEE,cM075 FE,cM133 FOO,cM088 FO",
    "cM197 FUA,cM101 FAN,cM037 NIN,cM038 NAN,cM039 NUN,cM117 NEN,cM169 NON,cM176 HI,cM041 HA",
    "cM186 HU,cM040 HEE,cM096 HE,cM042 HOO,cM140 HO,cM083 HEEI,cM128 HOOU,cM053 HIN,cM130 HAN",
    "cM087 HUN,cM052 HEN,cM193 HON,cM046 HUAN,cM090 NGGI,cM043 NGGA,cM082 NGGU,cM115 NGGEE",
    "cM146 NGGE,cM156 NGGOO,cM120 NGGO,cM159 NGGAA,cM127 NGGUA,cM086 LONG NGGE,cM106 LONG NGGOO",
    "cM183 LONG NGGO,cM155 GI,cM111 GA,cM168 GU,cM190 GEE,cM166 GUEI,cM167 GUAN,cM184 NGEN",
    "cM057 NGON,cM177 NGUAN,cM068 PI,cM099 PA,cM050 PU,cM081 PEE,cM051 PE,cM102 POO,cM066 PO",
    "cM145 MBI,cM062 MBA,cM122 MBU,cM047 MBEE,cM188a,cM072 MBE,cM172 MBOO,cM174 MBO,cM187 MBUU",
    "cM161 LONG MBE,cM105 LONG MBOO,cM142 LONG MBO,cM132 KPI,cM092 KPA,cM074 KPU,cM044 KPEE",
    "cM108 KPE,cM112 KPOO,cM158 KPO,cM124 GBI,cM056 GBA,cM148 GBU,cM093 GBEE,cM107 GBE",
    "cM071 GBOO,cM070 GBO,cM171 RA,cM123 NDI,cM129 NDA,cM125 NDU,cM191 NDEE,cM119 NDE,cM067 NDOO",
    "cM064 NDO,cM152 NJA,cM192 NJU,cM149 NJEE,cM134 NJOO,cM182 VI,cM185 VA,cM151 VU,cM173 VEE",
    "cM085 VE,cM144 VOO,cM077 VO,cM164 NYIN,cM058 NYAN,cM170 NYUN,cM098 NYEN,cM060 NYON,,",
    "bDIGIT ONE,cTWO,cTHREE,cFOUR,cFIVE,cSIX,cSEVEN,cEIGHT,cNINE,bCOMBINING NUMBER TEENS,dTENS",
    "dHUNDREDS,dTHOUSANDS,dTENa,dHUNDREDa,dMILLIONS"]⟩,
  ⟨0x1E900, ["ADLAM CAPITAL LETTER ALIF,cDAALI,cLAAM,cMIIM,cBA,cSINNYIIYHE,cPE,cBHE,cRA,cE,cFA",
    "cI,cO,cDHA,cYHE,cWAW,cNUN,cKAF,cYA,cU,cJIIM,cCHI,cHA,cQAAF,cGA,cNYA,cTU,cNHA,cVA,cKHA,cGBE",
    "cZAL,cKPO,cSHA,aSMALL LETTER ALIF,cDAALI,cLAAM,cMIIM,cBA,cSINNYIIYHE,cPE,cBHE,cRA,cE,cFA,cI",
    "cO,cDHA,cYHE,cWAW,cNUN,cKAF,cYA,cU,cJIIM,cCHI,cHA,cQAAF,cGA,cNYA,cTU,cNHA,cVA,cKHA,cGBE",
    "cZAL,cKPO,cSHA,aALIF LENGTHENER,aVOWELa,aGEMINATION MARK,aHAMZA,aCONSONANT MODIFIER",
    "aGEMINATEb,aNUKTA,aNASALIZATION MARK,,,,,aDIGIT ZERO,bONE,bTWO,bTHREE,bFOUR,bFIVE,bSIX",
    "bSEVEN,bEIGHT,bNINE,,,,,aINITIAL EXCLAMATION MARK,bQUESTIONa"]⟩,
  ⟨0x1EC71, ["INDIC SIYAQ NUMBER ONE,cTWO,cTHREE,cFOUR,cFIVE,cSIX,cSEVEN,cEIGHT,cNINE,cTEN",
    "cTWENTY,cTHIRTY,cFORTY,cFIFTY,cSIXTY,cSEVENTY,cEIGHTY,cNINETY,cONE HUNDRED,cTWOa,cTHREEa",
    "cFOURa,cFIVEa,cSIXa,cSEVENa,cEIGHTa,cNINEa,cONE THOUSAND,cTWOa,cTHREEa,cFOURa,cFIVEa,cSIXa",
    "cSEVENa,cEIGHTa,cNINEa,cTENa,cTWENTYa,cTHIRTYa,cFORTYa,cFIFTYa,cSIXTYa,cSEVENTYa,cEIGHTYa",
    "cNINETYa,cLAKH,cLAKHAN,bLAKH MARK,bNUMBER KAROR,cKARORAN,cPREFIXED ONE,dTWO,dTHREE,dFOUR",
    "dFIVE,dSIX,dSEVEN,dEIGHT,dNINE,bPLACEHOLDER,bFRACTION ONE QUARTER,dHALF,cTHREE QUARTERS",
    "bRUPEE MARK,bNUMBER ALTERNATE ONE,dTWO,dTEN THOUSAND,bALTERNATE LAKH MARK"]⟩,
  ⟨0x1ED01, ["OTTOMAN SIYAQ NUMBER ONE,cTWO,cTHREE,cFOUR,cFIVE,cSIX,cSEVEN,cEIGHT,cNINE,cTEN",
    "cTWENTY,cTHIRTY,cFORTY,cFIFTY,cSIXTY,cSEVENTY,cEIGHTY,cNINETY,cONE HUNDRED,cTWOa,cTHREEa",
    "cFOURa,cFIVEa,cSIXa,cSEVENa,cEIGHTa,cNINEa,cONE THOUSAND,cTWOa,cTHREEa,cFOURa,cFIVEa,cSIXa",
    "cSEVENa,cEIGHTa,cNINEa,cTENa,cTWENTYa,cTHIRTYa,cFORTYa,cFIFTYa,cSIXTYa,cSEVENTYa,cEIGHTYa",
    "cNINETYa,bMARRATAN,bALTERNATE NUMBER TWO,dTHREE,dFOUR,dFIVE,dSIX,dSEVEN,dEIGHT,dNINE,dTEN",
    "dFOUR HUNDRED,dSIXa,dTWO THOUSAND,dTENa,bFRACTION ONE HALF,dSIXTH"]⟩,
  ⟨0x1EE00, ["ARABIC MATHEMATICAL ALEF,bBEH,bJEEM,bDAL,,bWAW,bZAIN,bHAH,bTAH,bYEH,bKAF,bLAM",
    "bMEEM,bNOON,bSEEN,bAIN,bFEH,bSAD,bQAF,bREH,bSHEEN,bTEH,bTHEH,bKHAH,bTHAL,bDAD,bZAH,bGHAIN",
    "bDOTLESS BEH,cNOON,cFEH,cQAF,,bINITIAL BEH,cJEEM,,cHEH,,,cHAH,,cYEH,cKAF,cLAM,cMEEM,cNOON",
    "cSEEN,cAIN,cFEH,cSAD,cQAF,,cSHEEN,cTEH,cTHEH,cKHAH,,cDAD,,cGHAIN,,,,,,,bTAILED JEEM,,,,",
    "cHAH,,cYEH,,cLAM,,cNOON,cSEEN,cAIN,,cSAD,cQAF,,cSHEEN,,,cKHAH,,cDAD,,cGHAIN,,cDOTLESS NOON,",
    "dQAF,,bSTRETCHED BEH,cJEEM,,cHEH,,,cHAH,cTAH,cYEH,cKAF,,cMEEM,cNOON,cSEEN,cAIN,cFEH,cSAD",
    "cQAF,,cSHEEN,cTEH,cTHEH,cKHAH,,cDAD,cZAH,cGHAIN,cDOTLESS BEH,,dFEH,,bLOOPED ALEF,cBEH,cJEEM",
    "cDAL,cHEH,cWAW,cZAIN,cHAH,cTAH,cYEH,,cLAM,cMEEM,cNOON,cSEEN,cAIN,cFEH,cSAD,cQAF,cREH,cSHEEN",
    "cTEH,cTHEH,cKHAH,cTHAL,cDAD,cZAH,cGHAIN,,,,,,bDOUBLE-STRUCK BEH,cJEEM,cDAL,,cWAW,cZAIN,cHAH",
    "cTAH,cYEH,,cLAM,cMEEM,cNOON,cSEEN,cAIN,cFEH,cSAD,cQAF,cREH,cSHEEN,cTEH,cTHEH,cKHAH,cTHAL",
    "cDAD,cZAH,cGHAIN"]⟩,
  ⟨0x1EEF0, ["ARABIC MATHEMATICAL OPERATOR MEEM WITH HAH WITH TATWEEL,cHAH WITH DAL"]⟩,
  ⟨0x1F000, ["MAHJONG TILE EAST WIND,bSOUTHa,bWESTa,bNORTHa,bRED DRAGON,bGREENa,bWHITEa",
    "bONE OF CHARACTERS,bTWOb,bTHREEb,bFOURb,bFIVEb,bSIXb,bSEVENb,bEIGHTb,bNINEb,bONE OF BAMBOOS",
    "bTWOb,bTHREEb,bFOURb,bFIVEb,bSIXb,bSEVENb,bEIGHTb,bNINEb,bONE OF CIRCLES,bTWOb,bTHREEb",
    "bFOURb,bFIVEb,bSIXb,bSEVENb,bEIGHTb,bNINEb,bPLUM,bORCHID,bBAMBOO,bCHRYSANTHEMUM,bSPRING",
    "bSUMMER,bAUTUMN,bWINTER,bJOKER,bBACK,,,,,DOMINO TILE HORIZONTALa,bHORIZONTAL-00-00",
    "bHORIZONTAL-00-01,bHORIZONTAL-00-02,bHORIZONTAL-00-03,bHORIZONTAL-00-04,bHORIZONTAL-00-05",
    "bHORIZONTAL-00-06,bHORIZONTAL-01-00,bHORIZONTAL-01-01,bHORIZONTAL-01-02,bHORIZONTAL-01-03",
    "bHORIZONTAL-01-04,bHORIZONTAL-01-05,bHORIZONTAL-01-06,bHORIZONTAL-02-00,bHORIZONTAL-02-01",
    "bHORIZONTAL-02-02,bHORIZONTAL-02-03,bHORIZONTAL-02-04,bHORIZONTAL-02-05,bHORIZONTAL-02-06",
    "bHORIZONTAL-03-00,bHORIZONTAL-03-01,bHORIZONTAL-03-02,bHORIZONTAL-03-03,bHORIZONTAL-03-04",
    "bHORIZONTAL-03-05,bHORIZONTAL-03-06,bHORIZONTAL-04-00,bHORIZONTAL-04-01,bHORIZONTAL-04-02",
    "bHORIZONTAL-04-03,bHORIZONTAL-04-04,bHORIZONTAL-04-05,bHORIZONTAL-04-06,bHORIZONTAL-05-00",
    "bHORIZONTAL-05-01,bHORIZONTAL-05-02,bHORIZONTAL-05-03,bHORIZONTAL-05-04,bHORIZONTAL-05-05",
    "bHORIZONTAL-05-06,bHORIZONTAL-06-00,bHORIZONTAL-06-01,bHORIZONTAL-06-02,bHORIZONTAL-06-03",
    "bHORIZONTAL-06-04,bHORIZONTAL-06-05,bHORIZONTAL-06-06,bVERTICAL BACK,bVERTICAL-00-00",
    "bVERTICAL-00-01,bVERTICAL-00-02,bVERTICAL-00-03,bVERTICAL-00-04,bVERTICAL-00-05",
    "bVERTICAL-00-06,bVERTICAL-01-00,bVERTICAL-01-01,bVERTICAL-01-02,bVERTICAL-01-03",
    "bVERTICAL-01-04,bVERTICAL-01-05,bVERTICAL-01-06,bVERTICAL-02-00,bVERTICAL-02-01",
    "bVERTICAL-02-02,bVERTICAL-02-03,bVERTICAL-02-04,bVERTICAL-02-05,bVERTICAL-02-06",
    "bVERTICAL-03-00,bVERTICAL-03-01,bVERTICAL-03-02,bVERTICAL-03-03,bVERTICAL-03-04",
    "bVERTICAL-03-05,bVERTICAL-03-06,bVERTICAL-04-00,bVERTICAL-04-01,bVERTICAL-04-02",
    "bVERTICAL-04-03,bVERTICAL-04-04,bVERTICAL-04-05,bVERTICAL-04-06,bVERTICAL-05-00",
    "bVERTICAL-05-01,bVERTICAL-05-02,bVERTICAL-05-03,bVERTICAL-05-04,bVERTICAL-05-05",
    "bVERTICAL-05-06,bVERTICAL-06-00,bVERTICAL-06-01,bVERTICAL-06-02,bVERTICAL-06-03",
    "bVERTICAL-06-04,bVERTICAL-06-05,bVERTICAL-06-06"]⟩,
  ⟨0x1F0A0, ["PLAYING CARD BACK,bACE OF SPADES,bTWOb,bTHREEb,bFOURb,bFIVEb,bSIXb,bSEVENb,bEIGHTb",
    "bNINEb,bTENb,bJACKb,bKNIGHTb,bQUEENb,bKINGb,,,bACE OF HEARTS,bTWOb,bTHREEb,bFOURb,bFIVEb",
    "bSIXb,bSEVENb,bEIGHTb,bNINEb,bTENb,bJACKb,bKNIGHTb,bQUEENb,bKINGb,bRED JOKER,",
    "bACE OF DIAMONDS,bTWOb,bTHREEb,bFOURb,bFIVEb,bSIXb,bSEVENb,bEIGHTb,bNINEb,bTENb,bJACKb",
    "bKNIGHTb,bQUEENb,bKINGb,bBLACK JOKER,,bACE OF CLUBS,bTWOb,bTHREEb,bFOURb,bFIVEb,bSIXb",
    "bSEVENb,bEIGHTb,bNINEb,bTENb,bJACKb,bKNIGHTb,bQUEENb,bKINGb,bWHITE JOKER,bFOOL,bTRUMP-1",
    "bTRUMP-2,bTRUMP-3,bTRUMP-4,bTRUMP-5,bTRUMP-6,bTRUMP-7,bTRUMP-8,bTRUMP-9,bTRUMP-10,bTRUMP-11",
    "bTRUMP-12,bTRUMP-13,bTRUMP-14,bTRUMP-15,bTRUMP-16,bTRUMP-17,bTRUMP-18,bTRUMP-19,bTRUMP-20",
    "bTRUMP-21,,,,,,,,,,,DIGIT ZERO FULL STOP,bCOMMA,aONEa,aTWOa,aTHREEa,aFOURa,aFIVEa,aSIXa",
    "aSEVENa,aEIGHTa,aNINEa,DINGBAT CIRCLED SANS-SERIF DIGIT ZERO,aNEGATIVEd",
    "CIRCLED ZERO WITH SLASH,aANTICLOCKWISE ARROW,aDOLLAR SIGN WITH OVERLAID BACKSLASH",
    "PARENTHESIZED LATIN CAPITAL LETTER A,dB,dC,dD,dE,dF,dG,dH,dI,dJ,dK,dL,dM,dN,dO,dP,dQ,dR,dS",
    "dT,dU,dV,dW,dX,dY,dZ,TORTOISE SHELL BRACKETED LATIN CAPITAL LETTER S",
    "CIRCLED ITALIC LATIN CAPITAL LETTER C,eR,aCD,aWZ,COPYLEFT SYMBOL",
    "SQUARED LATIN CAPITAL LETTER A,dB,dC,dD,dE,dF,dG,dH,dI,dJ,dK,dL,dM,dN,dO,dP,dQ,dR,dS,dT,dU",
    "dV,dW,dX,dY,dZ,aHV,aMV,aSD,aSS,aPPV,aWC,NEGATIVE CIRCLED LATIN CAPITAL LETTER A,eB,eC,eD,eE",
    "eF,eG,eH,eI,eJ,eK,eL,eM,eN,eO,eP,eQ,eR,eS,eT,eU,eV,eW,eX,eY,eZ,RAISED MC SIGN,aMDa,aMRa",
    "CIRCLED CC,aC WITH OVERLAID BACKSLASH,aHUMAN FIGURE,NEGATIVE SQUARED LATIN CAPITAL LETTER A",
    "eB,eC,eD,eE,eF,eG,eH,eI,eJ,eK,eL,eM,eN,eO,eP,eQ,eR,eS,eT,eU,eV,eW,eX,eY,eZ",
    "CROSSED NEGATIVE SQUARED LATIN CAPITAL LETTER P,NEGATIVE SQUARED IC,bPA,bSA,bAB,bWC",
    "SQUARE DJ,SQUARED CL,aCOOL,aFREE,aID,aNEW,aNG,aOK,aSOS,aUP WITH EXCLAMATION MARK,aVS",
    "aTHREE D,aSECOND SCREEN,aTWO K,aFOURa,aEIGHTa,aFIVE POINT ONE,aSEVENb,aTWENTY-TWO POINT TWO",
    "aSIXTY P,aONE HUNDRED TWENTYa,aLATIN SMALL LETTER D,aHC,aHDR,aHI-RES,aLOSSLESS,aSHV,aUHD",
    "aVOD,MASK WORK SYMBOL"]⟩,
  ⟨0x1F1E6, ["REGIONAL INDICATOR SYMBOL LETTER A,dB,dC,dD,dE,dF,dG,dH,dI,dJ,dK,dL,dM,dN,dO,dP,dQ",
    "dR,dS,dT,dU,dV,dW,dX,dY,dZ,SQUARE HIRAGANA HOKA,SQUARED KATAKANA KOKO,bSA"]⟩,
  ⟨0x1F210, ["SQUARED CJK UNIFIED IDEOGRAPH-624B,cIDEOGRAPH-5B57,cIDEOGRAPH-53CC,aKATAKANA DE",
    "aCJK UNIFIED IDEOGRAPH-4E8C,cIDEOGRAPH-591A,cIDEOGRAPH-89E3,cIDEOGRAPH-5929,cIDEOGRAPH-4EA4",
    "cIDEOGRAPH-6620,cIDEOGRAPH-7121,cIDEOGRAPH-6599,cIDEOGRAPH-524D,cIDEOGRAPH-5F8C",
    "cIDEOGRAPH-518D,cIDEOGRAPH-65B0,cIDEOGRAPH-521D,cIDEOGRAPH-7D42,cIDEOGRAPH-751F",
    "cIDEOGRAPH-8CA9,cIDEOGRAPH-58F0,cIDEOGRAPH-5439,cIDEOGRAPH-6F14,cIDEOGRAPH-6295",
    "cIDEOGRAPH-6355,cIDEOGRAPH-4E00,cIDEOGRAPH-4E09,cIDEOGRAPH-904A,cIDEOGRAPH-5DE6",
    "cIDEOGRAPH-4E2D,cIDEOGRAPH-53F3,cIDEOGRAPH-6307,cIDEOGRAPH-8D70,cIDEOGRAPH-6253",
    "cIDEOGRAPH-7981,cIDEOGRAPH-7A7A,cIDEOGRAPH-5408,cIDEOGRAPH-6E80,cIDEOGRAPH-6709",
    "cIDEOGRAPH-6708,cIDEOGRAPH-7533,cIDEOGRAPH-5272,cIDEOGRAPH-55B6,cIDEOGRAPH-914D,,,,",
    "TORTOISE SHELL BRACKETED CJK UNIFIED IDEOGRAPH-672C,eIDEOGRAPH-4E09,eIDEOGRAPH-4E8C",
    "eIDEOGRAPH-5B89,eIDEOGRAPH-70B9,eIDEOGRAPH-6253,eIDEOGRAPH-76D7,eIDEOGRAPH-52DD",
    "eIDEOGRAPH-6557,,,,,,,,CIRCLED IDEOGRAPH ADVANTAGE,bACCEPT"]⟩,
  ⟨0x1F260, ["ROUNDED SYMBOL FOR FU,cLU,cSHOU,cXI,cSHUANGXI,cCAI"]⟩,
  ⟨0x1F300, ["CYCLONE,FOGGY,CLOSED UMBRELLA,NIGHT WITH STARS,SUNRISE OVER MOUNTAINS,a",
    "CITYSCAPE AT DUSK,SUNSET OVER BUILDINGS,RAINBOW,BRIDGE AT NIGHT,WATER WAVE,VOLCANO",
    "MILKY WAY,EARTH GLOBE EUROPE-AFRICA,bAMERICAS,bASIA-AUSTRALIA,GLOBE WITH MERIDIANS",
    "NEW MOON SYMBOL,WAXING CRESCENTb,FIRST QUARTERb,WAXING GIBBOUSb,FULLb,WANING GIBBOUSb",
    "LAST QUARTERb,WANING CRESCENTb,CRESCENT MOON,NEW MOON WITH FACE,FIRST QUARTERc,LASTd,FULLc",
    "SUNb,GLOWING STAR,SHOOTINGa,THERMOMETER,BLACK DROPLET,WHITE SUN,bWITH SMALL CLOUD,bBEHINDa",
    "dWITH RAIN,CLOUD WITH RAIN,bSNOW,bLIGHTNING,bTORNADO,FOG,WIND BLOWING FACE,HOT DOG,TACO",
    "BURRITO,CHESTNUT,SEEDLING,EVERGREEN TREE,DECIDUOUSa,PALMa,CACTUS,HOT PEPPER,TULIP",
    "CHERRY BLOSSOM,ROSE,HIBISCUS,SUNFLOWER,BLOSSOM,EAR OF MAIZE,bRICE,HERB,FOUR LEAF CLOVER",
    "MAPLE LEAF,FALLENa,LEAF FLUTTERING IN WIND,MUSHROOM,TOMATO,AUBERGINE,GRAPES,MELON",
    "WATERMELON,TANGERINE,LEMON,BANANA,PINEAPPLE,RED APPLE,GREENa,PEAR,PEACH,CHERRIES,STRAWBERRY",
    "HAMBURGER,SLICE OF PIZZA,MEAT ON BONE,POULTRY LEG,RICE CRACKER,aBALL,COOKED RICE,CURRY ANDa",
    "STEAMING BOWL,SPAGHETTI,BREAD,FRENCH FRIES,ROASTED SWEET POTATO,DANGO,ODEN,SUSHI",
    "FRIED SHRIMP,FISH CAKE WITH SWIRL DESIGN,SOFT ICE CREAM,SHAVED ICE,ICE CREAM,DOUGHNUT",
    "COOKIE,CHOCOLATE BAR,CANDY,LOLLIPOP,CUSTARD,HONEY POT,SHORTCAKE,BENTO BOX,POT OF FOOD",
    "COOKING,FORK AND KNIFE,TEACUP WITHOUT HANDLE,SAKE BOTTLE AND CUP,WINE GLASS,COCKTAILa",
    "TROPICAL DRINK,BEER MUG,CLINKING BEER MUGS,BABY BOTTLE,FORK AND KNIFE WITH PLATE",
    "BOTTLE WITH POPPING CORK,POPCORN,RIBBON,WRAPPED PRESENT,BIRTHDAY CAKE,JACK-O-LANTERN",
    "CHRISTMAS TREE,FATHER CHRISTMAS,FIREWORKS,FIREWORK SPARKLER,BALLOON,PARTY POPPER",
    "CONFETTI BALL,TANABATA TREE,CROSSED FLAGS,PINE DECORATION,JAPANESE DOLLS,CARP STREAMER",
    "WIND CHIME,MOON VIEWING CEREMONY,SCHOOL SATCHEL,GRADUATION CAP,HEART WITH TIP ON THE LEFT",
    "BOUQUET OF FLOWERS,MILITARY MEDAL,REMINDER RIBBON,MUSICAL KEYBOARD WITH JACKS",
    "STUDIO MICROPHONE,LEVEL SLIDER,CONTROL KNOBS,BEAMED ASCENDING MUSICAL NOTES,aDESCENDINGb",
    "FILM FRAMES,ADMISSION TICKETS,CAROUSEL HORSE,FERRIS WHEEL,ROLLER COASTER",
    "FISHING POLE AND FISH,MICROPHONE,MOVIE CAMERA,CINEMA,HEADPHONE,ARTIST PALETTE,TOP HAT",
    "CIRCUS TENT,TICKET,CLAPPER BOARD,PERFORMING ARTS,VIDEO GAME,DIRECT HIT,SLOT MACHINE",
    "BILLIARDS,GAME DIE,BOWLING,FLOWER PLAYING CARDS,MUSICAL NOTE,MULTIPLE MUSICAL NOTES",
    "SAXOPHONE,GUITAR,MUSICAL KEYBOARD,TRUMPET,VIOLIN,MUSICAL SCORE,RUNNING SHIRT WITH SASH",
    "TENNIS RACQUET AND BALL,SKI AND SKI BOOT,BASKETBALL AND HOOP,CHEQUERED FLAG,SNOWBOARDER",
    "RUNNER,SURFER,SPORTS MEDAL,TROPHY,HORSE RACING,AMERICAN FOOTBALL,RUGBYa,SWIMMER",
    "WEIGHT LIFTER,GOLFER,RACING MOTORCYCLE,aCAR,CRICKET BAT AND BALL,VOLLEYBALL",
    "FIELD HOCKEY STICK AND BALL,ICE HOCKEY STICK AND PUCK,TABLE TENNIS PADDLE AND BALL",
    "SNOW CAPPED MOUNTAIN,CAMPING,BEACH WITH UMBRELLA,BUILDING CONSTRUCTION,HOUSE BUILDINGS",
    "CITYSCAPE,DERELICT HOUSE BUILDING,CLASSICALa,DESERT,aISLAND,NATIONAL PARK,STADIUM",
    "HOUSE BUILDING,aWITH GARDEN,OFFICE BUILDING,JAPANESE POST OFFICE,EUROPEANb,HOSPITAL,BANK",
    "AUTOMATED TELLER MACHINE,HOTEL,LOVEa,CONVENIENCE STORE,SCHOOL,DEPARTMENT STORE,FACTORY",
    "IZAKAYA LANTERN,JAPANESE CASTLE,EUROPEANa,WHITE PENNANT,BLACKa,WAVING WHITE FLAG,aBLACKa",
    "ROSETTE,BLACKa,LABEL,BADMINTON RACQUET AND SHUTTLECOCK,BOW AND ARROW,AMPHORA",
    "EMOJI MODIFIER FITZPATRICK TYPE-1-2,cTYPE-3,cTYPE-4,cTYPE-5,cTYPE-6,RAT,MOUSE,OX",
    "WATER BUFFALO,COW,TIGER,LEOPARD,RABBIT,CAT,DRAGON,CROCODILE,WHALE,SNAIL,SNAKE,HORSE,RAM",
    "GOAT,SHEEP,MONKEY,ROOSTER,CHICKEN,DOG,PIG,BOAR,ELEPHANT,OCTOPUS,SPIRAL SHELL,BUG,ANT",
    "HONEYBEE,LADY BEETLE,FISH,TROPICALa,BLOWFISH,TURTLE,HATCHING CHICK,BABYa,FRONT-FACINGb,BIRD",
    "PENGUIN,KOALA,POODLE,DROMEDARY CAMEL,BACTRIANa,DOLPHIN,MOUSE FACE,COWa,TIGERa,RABBITa,CATa",
    "DRAGONa,SPOUTING WHALE,HORSE FACE,MONKEYa,DOGa,PIGa,FROGa,HAMSTERa,WOLFa,BEARa,PANDAa",
    "PIG NOSE,PAW PRINTS,CHIPMUNK,EYES,EYE,EAR,NOSE,MOUTH,TONGUE",
    "WHITE UP POINTING BACKHAND INDEX,aDOWNc,aLEFTc,aRIGHTc,FISTED HAND SIGN,WAVINGb,OKb",
    "THUMBS UPa,aDOWNa,CLAPPING HANDSa,OPENb,CROWN,WOMANS HAT,EYEGLASSES,NECKTIE,T-SHIRT,JEANS",
    "DRESS,KIMONO,BIKINI,WOMANS CLOTHES,PURSE,HANDBAG,POUCH,MANS SHOE,ATHLETICa,HIGH-HEELEDa",
    "WOMANS SANDAL,aBOOTS,FOOTPRINTS,BUST IN SILHOUETTE,BUSTSb,BOY,GIRL,MAN,WOMAN,FAMILY",
    "MAN AND WOMAN HOLDING HANDS,TWO MENb,aWOMENb,POLICE OFFICER,WOMAN WITH BUNNY EARS",
    "BRIDE WITH VEIL,PERSON WITH BLOND HAIR,MAN WITH GUA PI MAO,bTURBAN,OLDER MAN,aWOMAN,BABY",
    "CONSTRUCTION WORKER,PRINCESS,JAPANESE OGRE,aGOBLIN,GHOST,BABY ANGEL,EXTRATERRESTRIAL ALIEN",
    "ALIEN MONSTER,IMP,SKULL,INFORMATION DESK PERSON,GUARDSMAN,DANCER,LIPSTICK,NAIL POLISH",
    "FACE MASSAGE,HAIRCUT,BARBER POLE,SYRINGE,PILL,KISS MARK,LOVE LETTER,RING,GEM STONE,KISS",
    "BOUQUET,COUPLE WITH HEART,WEDDING,BEATING HEART,BROKENa,TWO HEARTS,SPARKLING HEART,GROWINGa",
    "HEART WITH ARROW,BLUE HEART,GREENa,YELLOWa,PURPLEa,HEART WITH RIBBON,REVOLVING HEARTS",
    "HEART DECORATION,DIAMOND SHAPE WITH A DOT INSIDE,ELECTRIC LIGHT BULB,ANGER SYMBOL,BOMB",
    "SLEEPING SYMBOL,COLLISIONa,SPLASHING SWEATa,DROPLET,DASH SYMBOL,PILE OF POO,FLEXED BICEPS",
    "DIZZY SYMBOL,SPEECH BALLOON,THOUGHTa,WHITE FLOWER,HUNDRED POINTS SYMBOL,MONEY BAG",
    "CURRENCY EXCHANGE,HEAVY DOLLAR SIGN,CREDIT CARD,BANKNOTE WITH YEN SIGN,bDOLLARa,bEUROa",
    "bPOUNDa,MONEY WITH WINGS,CHART WITH UPWARDS TREND AND YEN SIGN,SEAT,PERSONAL COMPUTER",
    "BRIEFCASE,MINIDISC,FLOPPY DISK,OPTICAL DISC,DVD,FILE FOLDER,OPENb,PAGE WITH CURL,aFACING UP",
    "CALENDAR,TEAR-OFFa,CARD INDEX,CHART WITH UPWARDS TREND,bDOWNWARDSa,BAR CHART,CLIPBOARD",
    "PUSHPIN,ROUNDa,PAPERCLIP,STRAIGHT RULER,TRIANGULARa,BOOKMARK TABS,LEDGER,NOTEBOOK",
    "aWITH DECORATIVE COVER,CLOSED BOOK,OPENa,GREENa,BLUEa,ORANGEa,BOOKS,NAME BADGE,SCROLL,MEMO",
    "TELEPHONE RECEIVER,PAGER,FAX MACHINE,SATELLITE ANTENNA,PUBLIC ADDRESS LOUDSPEAKER",
    "CHEERING MEGAPHONE,OUTBOX TRAY,INBOXa,PACKAGE,E-MAIL SYMBOL,INCOMING ENVELOPE",
    "ENVELOPE WITH DOWNWARDS ARROW ABOVE,CLOSED MAILBOX WITH LOWERED FLAG,cRAISEDa,OPENd",
    "cLOWEREDa,POSTBOX,POSTAL HORN,NEWSPAPER,MOBILE PHONE,bWITH RIGHTWARDS ARROW AT LEFT",
    "VIBRATION MODE,MOBILE PHONE OFF,NO MOBILE PHONES,ANTENNA WITH BARS,CAMERA,aWITH FLASH",
    "VIDEO CAMERA,TELEVISION,RADIO,VIDEOCASSETTE,FILM PROJECTOR,PORTABLE STEREO,PRAYER BEADS",
    "TWISTED RIGHTWARDS ARROWS,CLOCKWISE RIGHTWARDS AND LEFTWARDS OPEN CIRCLEa",
    "gWITH CIRCLED ONE OVERLAY,aDOWNWARDS AND UPWARDS OPEN CIRCLE ARROWS,ANTICLOCKWISEf",
    "LOW BRIGHTNESS SYMBOL,HIGHb,SPEAKER WITH CANCELLATION STROKE,a,aWITH ONE SOUND WAVE",
    "bTHREE SOUND WAVES,BATTERY,ELECTRIC PLUG,LEFT-POINTING MAGNIFYING GLASS,RIGHT-POINTINGb",
    "LOCK WITH INK PEN,CLOSED LOCK WITH KEY,KEY,LOCK,OPENa,BELL,aWITH CANCELLATION STROKE",
    "BOOKMARK,LINK SYMBOL,RADIO BUTTON,BACK WITH LEFTWARDS ARROW ABOVE,ENDd",
    "ON WITH EXCLAMATION MARK WITH LEFT RIGHTb,SOON WITH RIGHTWARDSb,TOP WITH UPWARDSb",
    "NO ONE UNDER EIGHTEEN SYMBOL,KEYCAP TEN,INPUT SYMBOL FOR LATIN CAPITAL LETTERS,dSMALLa",
    "cNUMBERS,cSYMBOLS,cLATIN LETTERS,FIRE,ELECTRIC TORCH,WRENCH,HAMMER,NUT AND BOLT,HOCHO",
    "PISTOL,MICROSCOPE,TELESCOPE,CRYSTAL BALL,SIX POINTED STAR WITH MIDDLE DOT",
    "JAPANESE SYMBOL FOR BEGINNER,TRIDENT EMBLEM,BLACK SQUARE BUTTON,WHITEb,LARGE RED CIRCLE",
    "aBLUEa,aORANGE DIAMOND,aBLUEa,SMALL ORANGEa,aBLUEa,UP-POINTING RED TRIANGLE,DOWN-POINTINGb",
    "UP-POINTING SMALLb,DOWN-POINTINGc,LOWER RIGHT SHADOWED WHITE CIRCLE,UPPERd",
    "CIRCLED CROSS POMMEE,CROSS POMMEE WITH HALF-CIRCLE BELOW,b",
    "NOTCHED LEFT SEMICIRCLE WITH THREE DOTS,aRIGHTd,SYMBOL FOR MARKS CHAPTER,WHITE LATIN CROSS",
    "HEAVYb,CELTICa,OM SYMBOL,DOVE OF PEACE,KAABA,MOSQUE,SYNAGOGUE,MENORAH WITH NINE BRANCHES",
    "BOWL OF HYGIEIA,CLOCK FACE ONE OCLOCK,bTWOa,bTHREEa,bFOURa,bFIVEa,bSIXa,bSEVENa,bEIGHTa",
    "bNINEa,bTENa,bELEVENa,bTWELVEa,bONE-THIRTY,bTWO-THIRTY,bTHREE-THIRTY,bFOUR-THIRTY",
    "bFIVE-THIRTY,bSIX-THIRTY,bSEVEN-THIRTY,bEIGHT-THIRTY,bNINE-THIRTY,bTEN-THIRTY",
    "bELEVEN-THIRTY,bTWELVE-THIRTY,RIGHT SPEAKER,bWITH ONE SOUND WAVE,cTHREE SOUND WAVES",
    "BULLHORN,aWITH SOUND WAVES,RINGING BELL,BOOK,CANDLE,MANTELPIECE CLOCK",
    "BLACK SKULL AND CROSSBONES,NO PIRACY,HOLE,MAN IN BUSINESS SUIT LEVITATING,SLEUTH OR SPY",
    "DARK SUNGLASSES,SPIDER,aWEB,JOYSTICK,MAN DANCING,LEFT HAND TELEPHONE RECEIVER",
    "TELEPHONE RECEIVER WITH PAGE,RIGHT HAND TELEPHONE RECEIVER,WHITE TOUCHTONE TELEPHONE,BLACKb",
    "TELEPHONE ON TOP OF MODEM,CLAMSHELL MOBILE PHONE,BACK OF ENVELOPE,STAMPEDa",
    "ENVELOPE WITH LIGHTNING,FLYING ENVELOPE,PEN OVER STAMPEDa,LINKED PAPERCLIPS,BLACK PUSHPIN",
    "LOWER LEFT PENCIL,bBALLPOINT PEN,bFOUNTAINa,bPAINTBRUSH,bCRAYON,LEFT WRITING HAND",
    "TURNED OK HAND SIGN,RAISED HAND WITH FINGERS SPLAYED,REVERSEDe,aTHUMBS UP SIGN,bDOWNa",
    "aVICTORY HAND,aHAND WITH MIDDLE FINGER EXTENDED",
    "RAISED HAND WITH PART BETWEEN MIDDLE AND RING FINGERS,WHITE DOWN POINTING LEFT HAND INDEX",
    "SIDEWAYS WHITE LEFT POINTINGa,bRIGHTb,aBLACK LEFTb,bRIGHTb,BLACK LEFT POINTING BACKHANDa",
    "aRIGHTc,SIDEWAYS WHITE UP POINTINGa,bDOWNb,aBLACK UPb,bDOWNb,BLACK UP POINTING BACKHANDa",
    "aDOWNc,aHEART,DESKTOP COMPUTER,KEYBOARD AND MOUSE,THREE NETWORKED COMPUTERS,PRINTER",
    "POCKET CALCULATOR,BLACK HARD SHELL FLOPPY DISK,WHITEd,SOFTc,TAPE CARTRIDGE,WIRED KEYBOARD",
    "ONE BUTTON MOUSE,TWOb,THREEb,TRACKBALL,OLD PERSONAL COMPUTER,HARD DISK,SCREEN,PRINTER ICON",
    "FAXa,OPTICAL DISCa,DOCUMENT WITH TEXT,cAND PICTURE,bPICTURE,FRAMEb,bTILES,bAN X",
    "BLACK FOLDER,FOLDER,OPENa,CARD INDEX DIVIDERS,aFILE BOX,FILE CABINET,EMPTY NOTE,bPAGE,bPAD",
    "NOTE,aPAGE,aPAD,EMPTY DOCUMENT,aPAGE,aPAGES,DOCUMENT,PAGE,PAGES,WASTEBASKET,SPIRAL NOTE PAD",
    "aCALENDARa,DESKTOP WINDOW,MINIMIZE,MAXIMIZE,OVERLAP",
    "CLOCKWISE RIGHT AND LEFT SEMICIRCLE ARROWS,CANCELLATION X,INCREASE FONT SIZE SYMBOL",
    "DECREASEc,COMPRESSION,OLD KEY,ROLLED-UP NEWSPAPER,PAGE WITH CIRCLED TEXT,STOCK CHART",
    "DAGGER KNIFE,LIPS,SPEAKING HEAD IN SILHOUETTE,THREE RAYS ABOVE,bBELOW,bLEFT,bRIGHT",
    "LEFT SPEECH BUBBLE,RIGHTb,TWO SPEECH BUBBLES,THREEb,LEFT THOUGHT BUBBLE,RIGHTb,LEFT ANGERa",
    "RIGHTb,MOODa,LIGHTNINGb,b,BALLOT BOX WITH BALLOT,aSCRIPT X,aBOX WITHb,aBOLDb,aBOX WITHc",
    "LIGHT CHECK MARK,BALLOT BOX WITH BOLD CHECK,WORLD MAP,MOUNT FUJI,TOKYO TOWER",
    "STATUE OF LIBERTY,SILHOUETTE OF JAPAN,MOYAI,GRINNING FACE,bWITH SMILING EYES",
    "FACE WITH TEARS OF JOY,SMILING FACE WITH OPEN MOUTH,eAND SMILING EYES,fCOLD SWEAT",
    "fTIGHTLY-CLOSED EYES,cHALO,cHORNS,WINKING FACE,SMILING FACE WITH SMILING EYES",
    "FACE SAVOURING DELICIOUS FOOD,RELIEVED FACE,SMILING FACE WITH HEART-SHAPED EYES,cSUNGLASSES",
    "SMIRKING FACE,NEUTRALa,EXPRESSIONLESSa,UNAMUSEDa,FACE WITH COLD SWEAT,PENSIVE FACE",
    "CONFUSEDa,CONFOUNDEDa,KISSINGa,FACE THROWING A KISS,KISSING FACE WITH SMILING EYES,cCLOSEDa",
    "FACE WITH STUCK-OUT TONGUE,dAND WINKING EYE,eTIGHTLY-CLOSED EYES,DISAPPOINTED FACE,WORRIEDa",
    "ANGRYa,POUTINGa,CRYINGa,PERSEVERINGa,FACE WITH LOOK OF TRIUMPH",
    "DISAPPOINTED BUT RELIEVED FACE,FROWNING FACE WITH OPEN MOUTH,ANGUISHED FACE,FEARFULa,WEARYa",
    "SLEEPYa,TIREDa,GRIMACINGa,LOUDLY CRYINGa,FACE WITH OPEN MOUTH,HUSHED FACE",
    "FACE WITH OPEN MOUTH AND COLD SWEAT,aSCREAMING IN FEAR,ASTONISHED FACE,FLUSHEDa,SLEEPINGa",
    "DIZZYa,FACE WITHOUT MOUTH,aWITH MEDICAL MASK,GRINNING CAT FACE WITH SMILING EYES",
    "CAT FACE WITH TEARS OF JOY,SMILING CAT FACE WITH OPEN MOUTH,dHEART-SHAPED EYES",
    "CAT FACE WITH WRY SMILE,KISSING CAT FACE WITH CLOSED EYES,POUTING CAT FACE,CRYINGb,WEARYb",
    "SLIGHTLY FROWNINGa,aSMILINGa,UPSIDE-DOWNa,FACE WITH ROLLING EYES,bNO GOOD GESTURE,bOKa",
    "PERSON BOWING DEEPLY,SEE-NO-EVIL MONKEY,HEAR-NO-EVILa,SPEAK-NO-EVILa",
    "HAPPY PERSON RAISING ONE HAND,PERSON RAISING BOTH HANDS IN CELEBRATION,aFROWNING",
    "aWITH POUTING FACE,bFOLDED HANDS,NORTH WEST POINTING LEAF,SOUTHc,NORTH EASTb,SOUTHc",
    "TURNED NORTH WESTb,aSOUTHc,aNORTH EASTb,aSOUTHc,NORTH WEST POINTING VINEa,SOUTHd",
    "NORTH EASTc,SOUTHd,HEAVY NORTH WESTc,aSOUTHd,aNORTH EASTc,aSOUTHd,NORTH WEST POINTING BUD",
    "SOUTHc,NORTH EASTb,SOUTHc,HEAVY NORTH WESTb,aSOUTHc,aNORTH EASTb,aSOUTHc",
    "HOLLOW QUILT SQUARE ORNAMENT,dIN BLACK SQUARE,SOLID QUILT SQUARE ORNAMENT,dIN BLACK SQUARE",
    "LEFTWARDS ROCKET,UPWARDSa,RIGHTWARDSa,DOWNWARDSa,SCRIPT LIGATURE ET ORNAMENT,HEAVYd",
    "LIGATURE OPENb,HEAVYd,aAMPERSANDa,SWASHb",
    "SANS-SERIF HEAVY DOUBLE TURNED COMMA QUOTATION MARKa,cCOMMA QUOTATION MARK ORNAMENT,bLOWe",
    "HEAVY INTERROBANGa,SANS-SERIFb,HEAVYc,VERY HEAVY SOLIDUS,bREVERSEa,CHECKER BOARD,REVERSEb",
    "ROCKET,HELICOPTER,STEAM LOCOMOTIVE,RAILWAY CAR,HIGH-SPEED TRAIN,bWITH BULLET NOSE,TRAIN",
    "METRO,LIGHT RAIL,STATION,TRAM,aCAR,BUS,ONCOMINGa,TROLLEYBUS,BUS STOP,MINIBUS,AMBULANCE",
    "FIRE ENGINE,POLICE CAR,ONCOMINGb,TAXI,ONCOMINGa,AUTOMOBILE,ONCOMINGa,RECREATIONAL VEHICLE",
    "DELIVERY TRUCK,ARTICULATED LORRY,TRACTOR,MONORAIL,MOUNTAIN RAILWAY,SUSPENSIONa",
    "MOUNTAIN CABLEWAY,AERIAL TRAMWAY,SHIP,ROWBOAT,SPEEDBOAT,HORIZONTAL TRAFFIC LIGHT,VERTICALb",
    "CONSTRUCTION SIGN,POLICE CARS REVOLVING LIGHT,TRIANGULAR FLAG ON POST,DOOR,NO ENTRY SIGN",
    "SMOKING SYMBOL,NOb,PUT LITTER IN ITS PLACEa,DO NOT LITTERa,POTABLE WATERa,NON-POTABLEb",
    "BICYCLE,NO BICYCLES,BICYCLIST,MOUNTAINa,PEDESTRIAN,NO PEDESTRIANS,CHILDREN CROSSING",
    "MENS SYMBOL,WOMENSa,RESTROOM,BABY SYMBOL,TOILET,WATER CLOSET,SHOWER,BATH,BATHTUB",
    "PASSPORT CONTROL,CUSTOMS,BAGGAGE CLAIM,LEFT LUGGAGE,TRIANGLE WITH ROUNDED CORNERS",
    "PROHIBITED SIGN,CIRCLED INFORMATION SOURCE,BOYS SYMBOL,GIRLSa,COUCH AND LAMP",
    "SLEEPING ACCOMMODATION,SHOPPING BAGS,BELLHOP BELL,BED,PLACE OF WORSHIP,OCTAGONAL SIGN",
    "SHOPPING TROLLEY,STUPA,PAGODA,HINDU TEMPLE,HUT,ELEVATOR,,,,,,PLAYGROUND SLIDE,WHEEL",
    "RING BUOY,HAMMER AND WRENCH,SHIELD,OIL DRUM,MOTORWAY,RAILWAY TRACK,MOTOR BOAT",
    "UP-POINTING MILITARY AIRPLANE,aAIRPLANE,aSMALLa,SMALL AIRPLANE,NORTHEAST-POINTINGa",
    "AIRPLANE DEPARTURE,aARRIVING,,,,SATELLITE,ONCOMING FIRE ENGINE,DIESEL LOCOMOTIVE",
    "PASSENGER SHIP,SCOOTER,MOTORa,CANOE,SLED,FLYING SAUCER,SKATEBOARD,AUTO RICKSHAW",
    "PICKUP TRUCK,ROLLER SKATE,,,,ALCHEMICAL SYMBOL FOR QUINTESSENCE,cAIR,cFIRE,cEARTH,cWATER",
    "cAQUAFORTIS,cAQUA REGIA,dREGIA-2,dVITAE,dVITAE-2,cVINEGAR,cVINEGAR-2,cVINEGAR-3,cSULFUR",
    "cPHILOSOPHERSa,cBLACKa,cMERCURY SUBLIMATE,dSUBLIMATE-2,dSUBLIMATE-3,cCINNABAR,cSALT,cNITRE",
    "cVITRIOL,cVITRIOL-2,cROCK SALT,dSALT-2,cGOLD,cSILVER,cIRON ORE,dORE-2,cCROCUS OF IRON",
    "cREGULUSb,cCOPPER ORE,cIRON-COPPERa,cSUBLIMATE OF COPPER,cCROCUSb,eCOPPER-2",
    "cCOPPER ANTIMONIATE,cSALT OFb,cSUBLIMATE OF SALT OF COPPER,cVERDIGRIS,cTIN ORE,cLEADa",
    "cANTIMONYa,cSUBLIMATE OF ANTIMONY,cSALTb,cSUBLIMATE OFc,cVINEGARb,cREGULUSb,eANTIMONY-2,d",
    "cREGULUS-2,cREGULUS-3,cREGULUS-4,cALKALI,cALKALI-2,cMARCASITE,cSAL-AMMONIAC,cARSENIC",
    "cREALGAR,cREALGAR-2,cAURIPIGMENT,cBISMUTH ORE,cTARTAR,cTARTAR-2,cQUICK LIME,cBORAX,cBORAX-2",
    "cBORAX-3,cALUM,cOIL,cSPIRIT,cTINCTURE,cGUM,cWAX,cPOWDER,cCALX,cTUTTY,cCAPUT MORTUUM",
    "cSCEPTER OF JOVE,cCADUCEUS,cTRIDENT,cSTARREDa,cLODESTONE,cSOAP,cURINE,cHORSE DUNG,cASHES",
    "cPOTa,cBRICK,cPOWDEREDa,cAMALGAM,cSTRATUM SUPER STRATUM,eSTRATUM-2,cSUBLIMATION",
    "cPRECIPITATE,cDISTILL,cDISSOLVE,cDISSOLVE-2,cPURIFY,cPUTREFACTION,cCRUCIBLE,cCRUCIBLE-2",
    "cCRUCIBLE-3,cCRUCIBLE-4,cCRUCIBLE-5,cALEMBIC,cBATH OF MARY,eVAPOURS,cRETORT,cHOUR,cNIGHT",
    "cDAY-NIGHT,cMONTH,cHALF DRAM,dOUNCE"]⟩,
  ⟨0x1F780, ["BLACK LEFT-POINTING ISOSCELES RIGHT TRIANGLE,aUP-POINTINGc,aRIGHT-POINTINGc",
    "aDOWN-POINTINGc,aSLIGHTLY SMALL CIRCLE,MEDIUM BOLD WHITEa,BOLD WHITE CIRCLE,HEAVYb,VERYc",
    "EXTREMELYc,WHITE CIRCLE CONTAINING BLACK SMALLa,ROUND TARGET,BLACK TINY SQUARE",
    "aSLIGHTLY SMALLa,LIGHT WHITEa,MEDIUMb,BOLDb,HEAVYb,VERYc,EXTREMELYc",
    "WHITE SQUARE CONTAINING BLACK VERY SMALLa,dMEDIUMa,SQUARE TARGET,BLACK TINY DIAMOND",
    "aVERY SMALLa,aMEDIUMb,WHITE DIAMOND CONTAINING BLACK VERYb,dMEDIUMa,DIAMOND TARGET",
    "BLACK TINY LOZENGE,aVERY SMALLa,aMEDIUMb,WHITE LOZENGE CONTAINING BLACKb,THIN GREEK CROSS",
    "LIGHTb,MEDIUMb,BOLDb,VERYc,aHEAVYb,EXTREMELYc,THIN SALTIRE,LIGHTa,MEDIUMa,BOLDa,HEAVYa",
    "VERYb,EXTREMELYb,LIGHT FIVE SPOKED ASTERISK,MEDIUMc,BOLDc,HEAVYc,VERYd,EXTREMELYd",
    "LIGHT SIXb,MEDIUMc,BOLDc,HEAVYc,VERYd,EXTREMELYd,LIGHT EIGHTb,MEDIUMc,BOLDc,HEAVYc,VERYd",
    "LIGHT THREE POINTED BLACK STAR,MEDIUMd,THREE POINTED BLACK STAR",
    "MEDIUM THREE POINTED PINWHEELa,LIGHT FOUR POINTED BLACKa,MEDIUMd,FOUR POINTED BLACK STAR",
    "MEDIUM FOUR POINTED PINWHEELa,REVERSE LIGHTd,LIGHT FIVE POINTED BLACKa,HEAVYd,MEDIUM SIXc",
    "HEAVYd,SIX POINTED PINWHEELa,MEDIUM EIGHT POINTED BLACKa,HEAVYd,VERYe",
    "HEAVY EIGHT POINTED PINWHEELa,LIGHT TWELVE POINTED BLACKa,HEAVYd,cPINWHEELa",
    "CIRCLED TRIANGLE,NEGATIVEb,CIRCLED SQUARE,NEGATIVEb,,,,,,,,LARGE ORANGE CIRCLE,aYELLOWa",
    "aGREENa,aPURPLEa,aBROWNa,aRED SQUARE,aBLUEa,aORANGEa,aYELLOWa,aGREENa,aPURPLEa,aBROWNa,,,,",
    "HEAVY EQUALS SIGN"]⟩,
  ⟨0x1F800, ["LEFTWARDS ARROW WITH SMALL TRIANGLE ARROWHEAD,UPWARDSe,RIGHTWARDSe,DOWNWARDSe",
    "LEFTWARDS ARROW WITH MEDIUMb,UPWARDSe,RIGHTWARDSe,DOWNWARDSe,LEFTWARDS ARROW WITH LARGEb",
    "UPWARDSe,RIGHTWARDSe,DOWNWARDSe,,,,,LEFTWARDS ARROW WITH SMALL EQUILATERALa,UPWARDSe",
    "RIGHTWARDSe,DOWNWARDSe,LEFTWARDS ARROW WITHb,UPWARDSd,RIGHTWARDSd,DOWNWARDSd",
    "HEAVY LEFTWARDSd,aUPWARDSd,aRIGHTWARDSd,aDOWNWARDSd,aLEFTWARDS ARROW WITH LARGEb,aUPWARDSe",
    "aRIGHTWARDSe,aDOWNWARDSe,LEFTWARDS TRIANGLE-HEADED ARROW WITH NARROW SHAFT,UPWARDSe",
    "RIGHTWARDSe,DOWNWARDSe,LEFTWARDS TRIANGLE-HEADED ARROW WITH MEDIUMa,UPWARDSe,RIGHTWARDSe",
    "DOWNWARDSe,LEFTWARDS TRIANGLE-HEADED ARROW WITH BOLDa,UPWARDSe,RIGHTWARDSe,DOWNWARDSe",
    "LEFTWARDS TRIANGLE-HEADED ARROW WITH HEAVYa,UPWARDSe,RIGHTWARDSe,DOWNWARDSe",
    "LEFTWARDS TRIANGLE-HEADED ARROW WITH VERYb,UPWARDSf,RIGHTWARDSf,DOWNWARDSf",
    "LEFTWARDS FINGER-POST ARROW,UPWARDSb,RIGHTWARDSb,DOWNWARDSb,LEFTWARDS SQUAREDa,UPWARDSb",
    "RIGHTWARDSb,DOWNWARDSb,LEFTWARDS COMPRESSEDa,UPWARDSb,RIGHTWARDSb,DOWNWARDSb",
    "LEFTWARDS HEAVYb,UPWARDSc,RIGHTWARDSc,DOWNWARDSc,LEFTWARDS HEAVYa,UPWARDSb,RIGHTWARDSb",
    "DOWNWARDSb,,,,,,,,,LEFTWARDS SANS-SERIFa,UPWARDSb,RIGHTWARDSb,DOWNWARDSb,NORTH WESTb,aEASTb",
    "SOUTHc,aWESTb,LEFT RIGHTb,UP DOWNb,,,,,,,WIDE-HEADED LEFTWARDS LIGHT BARBa,aUPWARDSc",
    "aRIGHTWARDSc,aDOWNWARDSc,aNORTH WESTc,bEASTc,aSOUTHd,bWESTc,aLEFTWARDSb,aUPWARDSb",
    "aRIGHTWARDSb,aDOWNWARDSb,aNORTH WESTb,bEASTb,aSOUTHc,bWESTb,aLEFTWARDS MEDIUMb,aUPWARDSc",
    "aRIGHTWARDSc,aDOWNWARDSc,aNORTH WESTc,bEASTc,aSOUTHd,bWESTc,aLEFTWARDS HEAVYb,aUPWARDSc",
    "aRIGHTWARDSc,aDOWNWARDSc,aNORTH WESTc,bEASTc,aSOUTHd,bWESTc,aLEFTWARDS VERYc,aUPWARDSd",
    "aRIGHTWARDSd,aDOWNWARDSd,aNORTH WESTd,bEASTd,aSOUTHe,bWESTd,,,,,,,,",
    "LEFTWARDS TRIANGLE ARROWHEAD,UPWARDSb,RIGHTWARDSb,DOWNWARDSb,LEFTWARDS WHITE ARROW WITHINb",
    "UPWARDSe,RIGHTWARDSe,DOWNWARDSe,LEFTWARDS ARROW WITH NOTCHED TAIL,UPWARDSd,RIGHTWARDSd",
    "DOWNWARDSd,HEAVY ARROW SHAFT WIDTH ONE,dTWO THIRDS,dONE HALF,eTHIRD",
    "LEFTWARDS BOTTOM-SHADED WHITE ARROW,RIGHTWARDS BOTTOM SHADEDb,LEFTWARDS TOPc,RIGHTWARDSd",
    "LEFTWARDS LEFT-SHADEDb,RIGHTWARDS RIGHT-SHADEDb,LEFTWARDSc,RIGHTWARDS LEFT-SHADEDb",
    "LEFTWARDS BACK-TILTED SHADOWEDb,RIGHTWARDSd,LEFTWARDS FRONT-TILTEDc,RIGHTWARDSd",
    "WHITE ARROW SHAFT WIDTH ONE,dTWO THIRDS,,,ARROW POINTING UPWARDS THEN NORTH WEST",
    "bRIGHTWARDS THEN CURVING SOUTHa"]⟩,
  ⟨0x1F900, ["CIRCLED CROSS FORMEE WITH FOUR DOTS,dTWOa,c,LEFT HALF CIRCLE WITH FOUR DOTS",
    "dTHREEa,dTWOa,dDOT,c,DOWNWARD FACING HOOK,bNOTCHEDa,bHOOK WITH DOT,bNOTCHEDc",
    "PINCHED FINGERS,WHITE HEART,BROWNa,PINCHING HAND,ZIPPER-MOUTH FACE,MONEY-MOUTHa",
    "FACE WITH THERMOMETER,NERD FACE,THINKINGa,FACE WITH HEAD-BANDAGE,ROBOT FACE,HUGGINGa",
    "SIGN OF THE HORNS,CALL ME HAND,RAISED BACK OFa,LEFT-FACING FIST,RIGHT-FACINGa,HANDSHAKE",
    "HAND WITH INDEX AND MIDDLE FINGERS CROSSED,I LOVE YOU HAND SIGN,FACE WITH COWBOY HAT",
    "CLOWN FACE,NAUSEATEDa,ROLLING ON THE FLOOR LAUGHING,DROOLING FACE,LYINGa,FACE PALM",
    "SNEEZING FACE,FACE WITH ONE EYEBROW RAISED,GRINNING FACE WITH STAR EYES",
    "cONE LARGE AND ONE SMALL EYE,FACE WITH FINGER COVERING CLOSED LIPS",
    "SERIOUS FACE WITH SYMBOLS COVERING MOUTH,SMILING FACE WITH SMILING EYES AND HANDb",
    "FACE WITH OPEN MOUTH VOMITING,SHOCKED FACE WITH EXPLODING HEAD,PREGNANT WOMAN",
    "BREAST-FEEDING,PALMS UP TOGETHER,SELFIE,PRINCE,MAN IN TUXEDO,MOTHER CHRISTMAS,SHRUG",
    "PERSON DOING CARTWHEEL,JUGGLING,FENCER,MODERN PENTATHLON,WRESTLERS,WATER POLO,HANDBALL",
    "DIVING MASK,WILTED FLOWER,DRUM WITH DRUMSTICKS,CLINKING GLASSES,TUMBLER GLASS,SPOON",
    "GOAL NET,RIFLE,FIRST PLACE MEDAL,SECONDb,THIRDb,BOXING GLOVE,MARTIAL ARTS UNIFORM",
    "CURLING STONE,LACROSSE STICK AND BALL,SOFTBALL,FLYING DISC,CROISSANT,AVOCADO,CUCUMBER,BACON",
    "POTATO,CARROT,BAGUETTE BREAD,GREEN SALAD,SHALLOW PAN OF FOOD,STUFFED FLATBREAD,EGG",
    "GLASS OF MILK,PEANUTS,KIWIFRUIT,PANCAKES,DUMPLING,FORTUNE COOKIE,TAKEOUT BOX,CHOPSTICKS",
    "BOWL WITH SPOON,CUP WITH STRAW,COCONUT,BROCCOLI,PIE,PRETZEL,CUT OF MEAT,SANDWICH",
    "CANNED FOOD,LEAFY GREEN,MANGO,MOON CAKE,BAGEL",
    "SMILING FACE WITH SMILING EYES AND THREE HEARTS,YAWNING FACE,SMILING FACE WITH TEAR",
    "FACE WITH PARTY HORN AND PARTY HAT,bUNEVEN EYES AND WAVY MOUTH,OVERHEATED FACE,FREEZINGa",
    "NINJA,DISGUISED FACE,FACE HOLDING BACK TEARS,aWITH PLEADING EYES,SARI,LAB COAT,GOGGLES",
    "HIKING BOOT,FLAT SHOE,CRAB,LION FACE,SCORPION,TURKEY,UNICORN FACE,EAGLE,DUCK,BAT,SHARK,OWL",
    "FOX FACE,BUTTERFLY,DEER,GORILLA,LIZARD,RHINOCEROS,SHRIMP,SQUID,GIRAFFE FACE,ZEBRAa,HEDGEHOG",
    "SAUROPOD,T-REX,CRICKET,KANGAROO,LLAMA,PEACOCK,HIPPOPOTAMUS,PARROT,RACCOON,LOBSTER,MOSQUITO",
    "MICROBE,BADGER,SWAN,MAMMOTH,DODO,SLOTH,OTTER,ORANGUTAN,SKUNK,FLAMINGO,OYSTER,BEAVER,BISON",
    "SEAL,GUIDE DOG,PROBING CANE,EMOJI COMPONENT RED HAIR,bCURLYa,bBALD,bWHITE HAIR,BONE,LEG",
    "FOOT,TOOTH,SUPERHERO,SUPERVILLAIN,SAFETY VEST,EAR WITH HEARING AID,MOTORIZED WHEELCHAIR",
    "MANUALa,MECHANICAL ARM,aLEG,CHEESE WEDGE,CUPCAKE,SALT SHAKER,BEVERAGE BOX,GARLIC,ONION",
    "FALAFEL,WAFFLE,BUTTER,MATE DRINK,ICE CUBE,BUBBLE TEA,TROLL,STANDING PERSON,KNEELINGa,DEAFa",
    "FACE WITH MONOCLE,ADULT,CHILD,OLDER ADULT,BEARDED PERSON,PERSON WITH HEADSCARF",
    "aIN STEAMY ROOM,aCLIMBING,aIN LOTUS POSITION,MAGE,FAIRY,VAMPIRE,MERPERSON,ELF,GENIE,ZOMBIE",
    "BRAIN,ORANGE HEART,BILLED CAP,SCARF,GLOVES,COAT,SOCKS,RED GIFT ENVELOPE,FIRECRACKER",
    "JIGSAW PUZZLE PIECE,TEST TUBE,PETRI DISH,DNA DOUBLE HELIX,COMPASS,ABACUS,FIRE EXTINGUISHER",
    "TOOLBOX,BRICK,MAGNET,LUGGAGE,LOTION BOTTLE,SPOOL OF THREAD,BALL OF YARN,SAFETY PIN",
    "TEDDY BEAR,BROOM,BASKET,ROLL OF PAPER,BAR OF SOAP,SPONGE,RECEIPT,NAZAR AMULET",
    "NEUTRAL CHESS KING,bQUEEN,bROOK,bBISHOP,bKNIGHT,bPAWN",
    "WHITE CHESS KNIGHT ROTATED FORTY-FIVE DEGREES,BLACKe,NEUTRALe",
    "WHITE CHESS KING ROTATED NINETYa,bQUEENc,bROOKc,bBISHOPc,bKNIGHTc,bPAWNc,BLACK CHESS KINGc",
    "bQUEENc,bROOKc,bBISHOPc,bKNIGHTc,bPAWNc,NEUTRAL CHESS KINGc,bQUEENc,bROOKc,bBISHOPc",
    "bKNIGHTc,bPAWNc,WHITE CHESS KNIGHT ROTATED ONE HUNDRED THIRTY-FIVEa,BLACKg,NEUTRALg",
    "WHITE CHESS TURNED KING,cQUEEN,cROOK,cBISHOP,cKNIGHT,cPAWN,BLACK CHESS TURNED KING,cQUEEN",
    "cROOK,cBISHOP,cKNIGHT,cPAWN,NEUTRAL CHESS TURNED KING,cQUEEN,cROOK,cBISHOP,cKNIGHT,cPAWN",
    "WHITE CHESS KNIGHT ROTATED TWO HUNDRED TWENTY-FIVE DEGREES,BLACKg,NEUTRALg",
    "WHITE CHESS KING ROTATED TWO HUNDRED SEVENTYa,bQUEENe,bROOKe,bBISHOPe,bKNIGHTe,bPAWNe",
    "BLACK CHESS KINGe,bQUEENe,bROOKe,bBISHOPe,bKNIGHTe,bPAWNe,NEUTRAL CHESS KINGe,bQUEENe",
    "bROOKe,bBISHOPe,bKNIGHTe,bPAWNe,WHITE CHESS KNIGHT ROTATED THREE HUNDRED FIFTEENa,BLACKg",
    "NEUTRALg,WHITE CHESS EQUIHOPPER,BLACKb,NEUTRALb",
    "WHITE CHESS EQUIHOPPER ROTATED NINETY DEGREES,BLACKe,NEUTRALe,WHITE CHESS KNIGHT-QUEEN",
    "bKNIGHT-ROOK,bKNIGHT-BISHOP,BLACK CHESS KNIGHT-QUEEN,bKNIGHT-ROOK,bKNIGHT-BISHOP"]⟩,
  ⟨0x1FA60, ["XIANGQI RED GENERAL,bMANDARIN,bELEPHANT,bHORSE,bCHARIOT,bCANNON,bSOLDIER",
    "aBLACK GENERAL,bMANDARIN,bELEPHANT,bHORSE,bCHARIOT,bCANNON,bSOLDIER,,,BALLET SHOES",
    "ONE-PIECE SWIMSUIT,BRIEFS,SHORTS,THONG SANDAL,,,,DROP OF BLOOD,ADHESIVE BANDAGE,STETHOSCOPE",
    "X-RAY,CRUTCH,,,,YO-YO,KITE,PARACHUTE,BOOMERANG,MAGIC WAND,PINATA,NESTING DOLLS,,,,,,,,,",
    "RINGED PLANET,CHAIR,RAZOR,AXE,DIYA LAMP,BANJO,MILITARY HELMET,ACCORDION,LONG DRUM,COIN",
    "CARPENTRY SAW,SCREWDRIVER,LADDER,HOOK,MIRROR,WINDOW,PLUNGER,SEWING NEEDLE,KNOT,BUCKET",
    "MOUSE TRAP,TOOTHBRUSH,HEADSTONE,PLACARD,ROCK,MIRROR BALL,IDENTIFICATION CARD,LOW BATTERY",
    "HAMSA,,,,FLY,WORM,BEETLE,COCKROACH,POTTED PLANT,WOOD,FEATHER,LOTUS,CORAL,EMPTY NEST",
    "NEST WITH EGGS,,,,,,ANATOMICAL HEART,LUNGS,PEOPLE HUGGING,PREGNANT MAN,aPERSON",
    "PERSON WITH CROWN,,,,,,,,,,,BLUEBERRIES,BELL PEPPER,OLIVE,FLATBREAD,TAMALE,FONDUE,TEAPOT",
    "POURING LIQUID,BEANS,JAR,,,,,,,MELTING FACE,SALUTINGa",
    "FACE WITH OPEN EYES AND HAND OVER MOUTH,bPEEKING EYE,bDIAGONAL MOUTH,DOTTED LINE FACE",
    "BITING LIP,BUBBLES,,,,,,,,,HAND WITH INDEX FINGER AND THUMB CROSSED,RIGHTWARDS HAND",
    "LEFTWARDSa,PALM DOWNa,aUPa,INDEX POINTING AT THE VIEWER,HEART HANDS,,,,,,,,,",
    "BLOCK SEXTANT-1,aSEXTANT-2,aSEXTANT-12,aSEXTANT-3,aSEXTANT-13,aSEXTANT-23,aSEXTANT-123",
    "aSEXTANT-4,aSEXTANT-14,aSEXTANT-24,aSEXTANT-124,aSEXTANT-34,aSEXTANT-134,aSEXTANT-234",
    "aSEXTANT-1234,aSEXTANT-5,aSEXTANT-15,aSEXTANT-25,aSEXTANT-125,aSEXTANT-35,aSEXTANT-235",
    "aSEXTANT-1235,aSEXTANT-45,aSEXTANT-145,aSEXTANT-245,aSEXTANT-1245,aSEXTANT-345",
    "aSEXTANT-1345,aSEXTANT-2345,aSEXTANT-12345,aSEXTANT-6,aSEXTANT-16,aSEXTANT-26,aSEXTANT-126",
    "aSEXTANT-36,aSEXTANT-136,aSEXTANT-236,aSEXTANT-1236,aSEXTANT-46,aSEXTANT-146,aSEXTANT-1246",
    "aSEXTANT-346,aSEXTANT-1346,aSEXTANT-2346,aSEXTANT-12346,aSEXTANT-56,aSEXTANT-156",
    "aSEXTANT-256,aSEXTANT-1256,aSEXTANT-356,aSEXTANT-1356,aSEXTANT-2356,aSEXTANT-12356",
    "aSEXTANT-456,aSEXTANT-1456,aSEXTANT-2456,aSEXTANT-12456,aSEXTANT-3456,aSEXTANT-13456",
    "aSEXTANT-23456,LOWER LEFT BLOCK DIAGONAL LOWER MIDDLE LEFT TO LOWER CENTRE,iRIGHT",
    "dUPPER MIDDLE LEFT TO LOWER CENTRE,iRIGHT,eLEFT TO LOWER CENTRE",
    "aRIGHT BLOCK DIAGONAL UPPER MIDDLE LEFT TO UPPERa,iRIGHT,dLOWER MIDDLE LEFT TO UPPER CENTRE",
    "iRIGHT,eLEFT TO UPPER CENTRE,eMIDDLE LEFT TO UPPER MIDDLE RIGHT,eCENTRE TO LOWERb,eLEFTd",
    "eCENTRE TO UPPERb,eLEFTd,eCENTRE TO UPPERa",
    "aLEFT BLOCK DIAGONAL UPPER CENTRE TO UPPER MIDDLEa,eLEFTd,eCENTRE TO LOWERb,eLEFTd",
    "eCENTRE TO LOWERa,eMIDDLE LEFT TO LOWER MIDDLEa",
    "UPPER RIGHT BLOCK DIAGONAL LOWER MIDDLE LEFT TO LOWER CENTRE,iRIGHT",
    "dUPPER MIDDLE LEFT TO LOWER CENTRE,iRIGHT,eLEFT TO LOWER CENTRE",
    "aLEFT BLOCK DIAGONAL UPPER MIDDLE LEFT TO UPPERa,iRIGHT,dLOWER MIDDLE LEFT TO UPPER CENTRE",
    "iRIGHT,eLEFT TO UPPER CENTRE,eMIDDLE LEFT TO UPPER MIDDLE RIGHT,eCENTRE TO LOWERb,eLEFTd",
    "eCENTRE TO UPPERb,eLEFTd,eCENTRE TO UPPERa",
    "aRIGHT BLOCK DIAGONAL UPPER CENTRE TO UPPER MIDDLEa,eLEFTd,eCENTRE TO LOWERb,eLEFTd",
    "eCENTRE TO LOWERa,eMIDDLE LEFT TO LOWER MIDDLEa",
    "aAND RIGHT AND LOWER TRIANGULAR THREE QUARTERS BLOCK,LEFT AND LOWER AND RIGHTd",
    "UPPER AND LEFT AND LOWERd,LEFT AND UPPER AND RIGHTd,aTRIANGULAR ONE QUARTERa,UPPERd,RIGHTd",
    "LOWERd,VERTICAL ONE EIGHTH BLOCK-2,cBLOCK-3,cBLOCK-4,cBLOCK-5,cBLOCK-6,cBLOCK-7",
    "HORIZONTAL ONE EIGHTH BLOCK-2,cBLOCK-3,cBLOCK-4,cBLOCK-5,cBLOCK-6,cBLOCK-7",
    "LEFT AND LOWER ONE EIGHTH BLOCK,bUPPERc,RIGHTe,bLOWERc,UPPERe",
    "HORIZONTAL ONE EIGHTH BLOCK-1358,UPPER ONE QUARTER BLOCK,aTHREE EIGHTHSa,aFIVEb",
    "aTHREE QUARTERSa,aSEVEN EIGHTHSa,RIGHT ONE QUARTERa,aTHREE EIGHTHSa,aFIVEb,aTHREE QUARTERSa",
    "aSEVEN EIGHTHSa,LEFT HALF MEDIUM SHADE,RIGHTc,UPPERc,LOWERc,INVERSEb",
    "UPPER HALF BLOCK AND LOWER HALFc,bINVERSE MEDIUM SHADE AND LOWER HALF BLOCK,",
    "LEFT HALF INVERSE MEDIUM SHADE AND RIGHTb,CHECKER BOARD FILL,INVERSEc,HEAVY HORIZONTALa",
    "UPPER LEFT TO LOWER RIGHTa,aRIGHT TO LOWER LEFTa,aAND LOWER TRIANGULAR HALF BLOCK",
    "LEFT AND RIGHTc,UPPER LEFT TRIANGULAR MEDIUM SHADE,aRIGHTc,LOWERd,aLEFTc",
    "BOX DRAWINGS LIGHT DIAGONAL UPPER CENTRE TO MIDDLE LEFT,hRIGHT,dMIDDLE LEFT TO LOWER CENTRE",
    "eRIGHTc,dUPPER CENTRE TO MIDDLE LEFTc,hRIGHTc,dMIDDLE LEFT TO LOWER CENTRE TO MIDDLE RIGHT",
    "gUPPERd,dUPPER CENTRE TO MIDDLE LEFT AND MIDDLE RIGHT TO LOWER CENTRE",
    "hRIGHT AND MIDDLE LEFTc,iTO LOWER CENTRE TO MIDDLE LEFT",
    "hLEFT TO LOWER CENTRE TO MIDDLE RIGHT",
    "dMIDDLE LEFT TO UPPER CENTRE TO MIDDLE RIGHT TO LOWER CENTRE",
    "eRIGHT TO UPPER CENTRE TO MIDDLE LEFTc,dDIAMOND,cHORIZONTAL WITH VERTICAL STROKE",
    "ARROWHEAD-SHAPED POINTER,INVERSE CHECK MARK,LEFT HALF RUNNING MAN,RIGHTc",
    "INVERSE DOWNWARDS ARROW WITH TIP LEFTWARDS",
    "LEFTWARDS ARROW AND UPPER AND LOWER ONE EIGHTH BLOCK,RIGHTWARDSh,DOWNWARDS ARROW AND RIGHTc",
    "UPWARDSf,LEFT HALF FOLDER,RIGHTb,VOIDED GREEK CROSS,RIGHT OPEN SQUARED DOT",
    "NEGATIVE DIAGONAL CROSS,bMIDDLE RIGHT TO LOWER CENTRE,bDIAMOND",
    "WHITE HEAVY SALTIRE WITH ROUNDED CORNERS,LEFT THIRD WHITE RIGHT POINTING INDEX,MIDDLEe",
    "RIGHTe,NEGATIVE SQUARED QUESTION MARK,STICK FIGURE,bWITH ARMS RAISED,bLEANING LEFT,cRIGHT",
    "bWITH DRESS,WHITE UP-POINTING CHEVRON"]⟩,
  ⟨0x1FBF0, ["SEGMENTED DIGIT ZERO,bONE,bTWO,bTHREE,bFOUR,bFIVE,bSIX,bSEVEN,bEIGHT,bNINE"]⟩,
  ⟨0xE0001, ["LANGUAGE TAG"]⟩,
  ⟨0xE0020, ["TAG SPACE,aEXCLAMATION MARK,aQUOTATIONa,aNUMBER SIGN,aDOLLARa,aPERCENTa,aAMPERSAND",
    "aAPOSTROPHE,aLEFT PARENTHESIS,aRIGHTa,aASTERISK,aPLUS SIGN,aCOMMA,aHYPHEN-MINUS,aFULL STOP",
    "aSOLIDUS,aDIGIT ZERO,bONE,bTWO,bTHREE,bFOUR,bFIVE,bSIX,bSEVEN,bEIGHT,bNINE,aCOLON",
    "aSEMICOLON,aLESS-THAN SIGN,aEQUALSa,aGREATER-THANa,aQUESTION MARK,aCOMMERCIAL AT",
    "aLATIN CAPITAL LETTER A,dB,dC,dD,dE,dF,dG,dH,dI,dJ,dK,dL,dM,dN,dO,dP,dQ,dR,dS,dT,dU,dV,dW",
    "dX,dY,dZ,aLEFT SQUARE BRACKET,aREVERSE SOLIDUS,aRIGHT SQUARE BRACKET,aCIRCUMFLEX ACCENT",
    "aLOW LINE,aGRAVE ACCENT,aLATIN SMALL LETTER A,dB,dC,dD,dE,dF,dG,dH,dI,dJ,dK,dL,dM,dN,dO,dP",
    "dQ,dR,dS,dT,dU,dV,dW,dX,dY,dZ,aLEFT CURLY BRACKET,aVERTICAL LINE,aRIGHT CURLY BRACKET",
    "aTILDE,CANCEL TAG"]⟩]

end OrderSheet.Text
